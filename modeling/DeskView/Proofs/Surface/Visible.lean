import DeskView.Proofs.Pump.Tick
import DeskView.Proofs.Surface.Letterbox
import DeskView.Proofs.Surface.Remains

/-!
# Whether a drawn frame can be seen

A frame that has pixels is put on a surface that has pixels, too.  Stretched, it covers all of them.
Letterboxed, it need not cover any: the side that follows from its shape is rounded down, and of a frame
that is too thin for the surface nothing is left (`ScaleMode.isEmpty_destination_eq_false_iff`).

A target takes such an empty destination as it takes any other and draws nothing, so the frame is
presented and counted although it cannot be seen (`Surface.drawn_frame_is_visible_iff`).
-/

namespace DeskView

/-! ### Rectangles on a surface -/

/-- Whether a rectangle lies within a surface of some size. -/
structure Rect.LiesOn (r : Rect) (width height : UInt32) : Prop where
  x_nonneg : 0 ≤ r.x.toInt
  y_nonneg : 0 ≤ r.y.toInt
  right_le : r.x.toInt + r.width.toNat ≤ width.toNat
  bottom_le : r.y.toInt + r.height.toNat ≤ height.toNat

/-- A rectangle within a surface covers one of its pixels unless it is empty. -/
theorem Rect.LiesOn.exists_contains_iff {r : Rect} {width height : UInt32} (h : r.LiesOn width height) :
    (∃ x y : Nat, x < width.toNat ∧ y < height.toNat ∧ r.contains x y = true) ↔
      r.isEmpty = false := by
  obtain ⟨hx, hy, hright, hbottom⟩ := h
  constructor
  · rintro ⟨x, y, -, -, hinside⟩
    rw [Rect.contains_iff] at hinside
    rw [Rect.isEmpty_eq_false_iff]
    omega
  · intro hempty
    -- the corner is such a pixel
    obtain ⟨hw, hh⟩ := Rect.isEmpty_eq_false_iff.mp hempty
    refine ⟨r.x.toInt.toNat, r.y.toInt.toNat, by omega, by omega, ?_⟩
    rw [Rect.contains_iff]
    omega

namespace ScaleMode

variable {srcW srcH destW destH : UInt32}

/-! ### Sides that are rounded down to nothing -/

/-- Whether a frame is not too thin for a surface: if it is letterboxed, one pixel at least is left of
each of its sides. -/
def KeepsSides (mode : ScaleMode) (srcW srcH destW destH : UInt32) : Prop :=
  mode = .letterbox → srcH.toNat ≤ destH.toNat * srcW.toNat ∧ srcW.toNat ≤ destW.toNat * srcH.toNat

instance (mode : ScaleMode) (srcW srcH destW destH : UInt32) :
    Decidable (mode.KeepsSides srcW srcH destW destH) :=
  inferInstanceAs (Decidable (_ → _))

/-- Something is left of a side if the frame is no longer across than what there would be room for. -/
theorem fittedSide_pos_iff {source across dest across' : Nat} (hacross : 0 < across) (hdest : 0 < dest) :
    0 < fittedSide source across dest across' ↔ across ≤ across' * source := by
  rw [fittedSide, Nat.lt_min, Nat.div_pos_iff]
  exact ⟨fun h => h.2.2, fun h => ⟨hdest, hacross, h⟩⟩

/-- The part of a surface that a frame covers lies on the surface. -/
theorem liesOn_destination (mode : ScaleMode) (hw : 0 < srcW) (hh : 0 < srcH) (destW destH : UInt32) :
    (mode.destination srcW srcH destW destH).LiesOn destW destH := by
  cases mode with
  | stretch =>
    constructor <;> simp [destination, Rect.sized]
  | letterbox =>
    obtain ⟨hwle, hhle⟩ := fit_le hw hh destW destH
    have hacross := isCentred_margin hwle
    have hdown := isCentred_margin hhle
    rw [destination_letterbox hw hh]
    exact ⟨hacross.nonneg, hdown.nonneg, hacross.fits, hdown.fits⟩

/-- **Which frames vanish.**  The part of a surface that a frame covers has pixels unless the frame is
letterboxed and too thin for the surface. -/
theorem isEmpty_destination_eq_false_iff (mode : ScaleMode) (hw : 0 < srcW) (hh : 0 < srcH)
    (hdw : 0 < destW) (hdh : 0 < destH) :
    (mode.destination srcW srcH destW destH).isEmpty = false ↔
      mode.KeepsSides srcW srcH destW destH := by
  rw [Rect.isEmpty_eq_false_iff]
  rw [UInt32.lt_iff_toNat_lt, UInt32.toNat_zero] at hdw hdh
  cases mode with
  | stretch => simp [KeepsSides, destination, Rect.sized, hdw, hdh]
  | letterbox =>
    obtain ⟨hwidth, hheight⟩ := toNat_fit hw hh destW destH
    rw [UInt32.lt_iff_toNat_lt, UInt32.toNat_zero] at hw hh
    rw [destination_letterbox (UInt32.lt_iff_toNat_lt.mpr hw) (UInt32.lt_iff_toNat_lt.mpr hh)]
    change 0 < (fit srcW srcH destW destH).1.toNat ∧ 0 < (fit srcW srcH destW destH).2.toNat ↔ _
    rw [hwidth, hheight, fittedSide_pos_iff hh hdw, fittedSide_pos_iff hw hdh]
    simp [KeepsSides]

end ScaleMode

/-- A frame whose destination is empty leaves the canvas as it is, and is counted there. -/
theorem Canvas.posting_of_isEmpty {c : Canvas} {image : Image} {dst : Rect}
    (hformat : image.format.bytesPerPixel = bytesPerPixel) (himage : image.WellFormed)
    (h : dst.isEmpty = true) : c.posting image dst = { c with posted := c.posted + 1 } := by
  have hnone := sample_eq_none_of_isEmpty hformat himage
    (show ((Rect.sized image.width image.height).isEmpty || dst.isEmpty) = true by
      rw [h, Bool.or_true])
  rw [posting, overlay_eq_self hnone]

namespace Surface

/-! ### Drawn, and not to be seen -/

/-- A frame that is drawn was shown on the bound target, and no call of it failed. -/
theorem calls_present_of_drawn {T : Type} [Drawable T] {s : Surface T} {image : Image}
    (h : (s.present image).outcome = .ok .drawn) :
    ∃ id target canvas, s.bound? = some (id, target) ∧ (Drawable.begin target).1 = .ok canvas ∧
      (s.present image).calls = (Drawable.showing image (s.place image canvas)).map (id, ·) := by
  rcases present_cases s image with ⟨-, hp⟩ | ⟨id, target, -, hbound, -, hcalls, houtcome⟩
  · rw [hp] at h
    cases h
  · rw [houtcome] at h
    rcases Drawable.transact_cases target image (s.place image) with ⟨-, hfailed⟩ |
      ⟨canvas, -, -, hfailed⟩ | ⟨canvas, hbegin, hall⟩
    · exact absurd h hfailed
    · exact absurd h hfailed
    · refine ⟨id, target, canvas, hbound, hbegin, ?_⟩
      rw [hcalls, hall]
      rfl

/-- The part of a surface that a frame covers, by the size that frames are scaled to. -/
theorem place_eq {T : Type} {s : Surface T} {image : Image} {canvas : UInt32 × UInt32}
    {width height : UInt32} (h : s.extent canvas = (width, height)) :
    s.place image canvas = s.scale.destination image.width image.height width height := by
  unfold place
  rw [h]

/-- A frame that is too thin for the surface is drawn on an in-memory target all the same, which goes on
showing what it showed. -/
theorem shown?_present_of_thin {scale : ScaleMode} {uses : List (Use StandIn)}
    (hnew : ∀ t, .surface (.created (.memory t)) ∈ uses → t.IsNew)
    {id : Nat} {t : MemoryTarget} (hbound : (run { scale } uses).bound? = some (id, .memory t))
    {image : Image} (hw : 0 < image.width) (hh : 0 < image.height)
    (hformat : image.format.bytesPerPixel = Canvas.bytesPerPixel) (himage : image.WellFormed)
    {width height : UInt32}
    (hextent : (run { scale } uses).extent (t.front.width, t.front.height) = (width, height))
    (hwidth : 0 < width) (hheight : 0 < height)
    (hthin : ¬ scale.KeepsSides image.width image.height width height) :
    ((run { scale } uses).present image).outcome = .ok .drawn ∧
      ((run { scale } uses).present image).surface.shown? id =
        some { t.front with posted := t.front.posted + 1 } := by
  have hrest : t.AtRest :=
    canvasesAtRest_run scale uses hnew id t (bound?_eq_some_iff.mp hbound).2
  obtain ⟨hfollows, hscale⟩ := follows_run (T := StandIn) scale uses
  obtain ⟨hdrawn, hshown⟩ :=
    shown?_present (hfollows.valid_of_bound? hbound) hbound hrest hformat himage
  have hempty : (scale.destination image.width image.height width height).isEmpty = true := by
    rw [← ScaleMode.isEmpty_destination_eq_false_iff scale hw hh hwidth hheight,
      Bool.not_eq_false] at hthin
    exact hthin
  refine ⟨hdrawn, hshown.trans ?_⟩
  rw [place_eq hextent, hscale, Canvas.posting_of_isEmpty hformat himage hempty]

/-- **A drawn frame can be seen unless it is letterboxed and too thin.**  Take a frame that has pixels.

* On a surface that has pixels, the part that it covers has some exactly if one pixel at least is left of
  each side of the frame.
* Whatever the surface is and however its targets answer, a frame that is drawn was handed to the bound
  target with that part as its destination, and it is counted.  It covers a pixel of the surface exactly
  in the same case.
* In the other case an in-memory target draws it all the same, and goes on showing what it showed. -/
theorem drawn_frame_is_visible_iff {image : Image} (hw : 0 < image.width) (hh : 0 < image.height) :
    (∀ (mode : ScaleMode) (width height : UInt32), 0 < width → 0 < height →
      ((mode.destination image.width image.height width height).isEmpty = false ↔
        mode.KeepsSides image.width image.height width height)) ∧
    (∀ {T : Type} [Drawable T] (s : Surface T), (s.present image).outcome = .ok .drawn →
      (∀ p : Pump, (p.conclude (s.present image)).pump.frameCount = p.frameCount + 1) ∧
      ∃ id target canvas, s.bound? = some (id, target) ∧ (Drawable.begin target).1 = .ok canvas ∧
        (s.present image).calls = (Drawable.showing image (s.place image canvas)).map (id, ·) ∧
        ∀ width height, s.extent canvas = (width, height) → 0 < width → 0 < height →
          ((∃ x y : Nat, x < width.toNat ∧ y < height.toNat ∧
              (s.place image canvas).contains x y = true) ↔
            s.scale.KeepsSides image.width image.height width height)) ∧
    ∀ (scale : ScaleMode) (uses : List (Use StandIn)),
      (∀ t, .surface (.created (.memory t)) ∈ uses → t.IsNew) →
      let s := run { scale } uses
      ∀ id t width height, s.bound? = some (id, .memory t) →
        image.format.bytesPerPixel = Canvas.bytesPerPixel → image.WellFormed →
        s.extent (t.front.width, t.front.height) = (width, height) → 0 < width → 0 < height →
        ¬ scale.KeepsSides image.width image.height width height →
        (s.present image).outcome = .ok .drawn ∧
          (s.present image).surface.shown? id = some { t.front with posted := t.front.posted + 1 } := by
  refine ⟨fun mode width height hwidth hheight => ?_, fun s hdrawn => ⟨fun p => ?_, ?_⟩, ?_⟩
  · exact ScaleMode.isEmpty_destination_eq_false_iff mode hw hh hwidth hheight
  · rw [p.frameCount_conclude, if_pos ((p.outcome_conclude_eq_presented_iff _).mpr hdrawn)]
  · obtain ⟨id, target, canvas, hbound, hbegin, hcalls⟩ := calls_present_of_drawn hdrawn
    refine ⟨id, target, canvas, hbound, hbegin, hcalls, fun width height hextent hwidth hheight => ?_⟩
    rw [place_eq hextent,
      (ScaleMode.liesOn_destination s.scale hw hh width height).exists_contains_iff,
      ScaleMode.isEmpty_destination_eq_false_iff s.scale hw hh hwidth hheight]
  · intro scale uses hnew s id t width height hbound hformat himage hextent hwidth hheight hthin
    exact shown?_present_of_thin hnew hbound hw hh hformat himage hextent hwidth hheight hthin

/-- A row of three pixels on a surface of two by two: it is drawn, its destination has no pixel, and the
new canvas stays blank. -/
theorem drawn_frame_is_visible_iff_thin :
    let s := run { scale := .letterbox } [.surface (.created (.memory (.new 2 2)))]
    let image : Image := ⟨3, 1, .rgba8, Array.replicate 12 9⟩
    (ScaleMode.letterbox.destination 3 1 2 2).isEmpty = true ∧
      (s.present image).outcome = .ok .drawn ∧
      (s.present image).surface.shown? 0 = some { Canvas.blank 2 2 with posted := 1 } := by
  intro s image
  obtain ⟨hempty, -, hthin⟩ := @drawn_frame_is_visible_iff image (by decide) (by decide)
  have hnew : ∀ t, .surface (.created (.memory t)) ∈
      [Use.surface (.created (StandIn.memory (.new 2 2)))] → t.IsNew := by
    intro t ht
    simp only [List.mem_singleton, Use.surface.injEq, SurfaceEvent.created.injEq,
      StandIn.memory.injEq] at ht
    exact ⟨2, 2, congrArg some ht.symm⟩
  refine ⟨?_, hthin .letterbox _ hnew 0 (.new 2 2) 2 2 rfl rfl rfl rfl (by decide) (by decide)
    (by decide)⟩
  rw [← Bool.not_eq_false, hempty .letterbox 2 2 (by decide) (by decide)]
  decide

/-- A frame need not cover a pixel of the surface that it is drawn on. -/
theorem not_drawn_frame_is_visible :
    ¬ ∀ (scale : ScaleMode) (srcW srcH destW destH : UInt32), 0 < srcW → 0 < srcH → 0 < destW →
      0 < destH → (scale.destination srcW srcH destW destH).isEmpty = false := by
  intro h
  have hvisible := h .letterbox 3 1 2 2 (by decide) (by decide) (by decide) (by decide)
  revert hvisible
  decide

end Surface

end DeskView
