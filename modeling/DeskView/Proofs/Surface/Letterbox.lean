import DeskView.Surface.Scale

/-!
# Letterboxing

A letterboxed frame fills one side of the surface, and the other side of its rectangle follows from the
frame's shape, rounded down.  `ScaleMode.fit` compares two products of words to find out which side that
is.  `toNat_fit` says the same without the comparison: each side is the smaller one of the surface's own
and of what the other side of the surface leaves room for (`fittedSide`).

That formula is monotone in the surface and the same for all frames of one shape, and it treats both
sides alike; so does the rectangle, which lies in the middle of the surface (`toInt_margin`).
-/

namespace DeskView.ScaleMode

/-! ### One side -/

/-- The longest that the side `source` of a frame can be made on a surface whose sides are `dest` and,
across, `across'`, the frame's side across being `across`. -/
def fittedSide (source across dest across' : Nat) : Nat := min dest (across' * source / across)

/-- The comparison of the two shapes decides for the surface's side … -/
theorem fittedSide_of_le {source across dest across' : Nat} (h : dest * across ≤ across' * source)
    (hacross : 0 < across) : fittedSide source across dest across' = dest :=
  Nat.min_eq_left ((Nat.le_div_iff_mul_le hacross).mpr h)

/-- … or for the one that is computed, which then is no longer. -/
theorem fittedSide_of_ge {source across dest across' : Nat} (h : across' * source ≤ dest * across) :
    fittedSide source across dest across' = across' * source / across ∧
      across' * source / across ≤ dest := by
  have hle : across' * source / across ≤ dest :=
    Nat.div_le_of_le_mul (by rw [Nat.mul_comm across]; exact h)
  exact ⟨Nat.min_eq_right hle, hle⟩

/-- Frames of one shape are made equally long. -/
theorem fittedSide_congr {s a s' a' : Nat} (h : s * a' = s' * a) (ha : 0 < a) (ha' : 0 < a')
    (dest across : Nat) : fittedSide s a dest across = fittedSide s' a' dest across := by
  have hquotient : across * s / a = across * s' / a' := by
    calc across * s / a = across * s * a' / (a * a') := (Nat.mul_div_mul_right _ _ ha').symm
      _ = across * s' * a / (a' * a) := by rw [Nat.mul_assoc, h, ← Nat.mul_assoc, Nat.mul_comm a a']
      _ = across * s' / a' := Nat.mul_div_mul_right _ _ ha
  rw [fittedSide, fittedSide, hquotient]

/-- On a larger surface nothing is made shorter. -/
theorem fittedSide_mono {d d' a a' : Nat} (hd : d ≤ d') (ha : a ≤ a') (source across : Nat) :
    fittedSide source across d a ≤ fittedSide source across d' a' := by
  have hquotient : a * source / across ≤ a' * source / across :=
    Nat.div_le_div_right (Nat.mul_le_mul_right source ha)
  unfold fittedSide
  omega

/-! ### Words -/

/-- The product of two words of 32 bits is taken in 64, where it is exact … -/
theorem toNat_mul (a b : UInt32) : (a.toUInt64 * b.toUInt64).toNat = a.toNat * b.toNat := by
  have hproduct : a.toNat * b.toNat < 2 ^ 64 :=
    calc a.toNat * b.toNat < 2 ^ 32 * 2 ^ 32 := Nat.mul_lt_mul_of_lt_of_lt a.toNat_lt b.toNat_lt
      _ = 2 ^ 64 := by decide
  rw [UInt64.toNat_mul, UInt32.toNat_toUInt64, UInt32.toNat_toUInt64, Nat.mod_eq_of_lt hproduct]

/-- … and a quotient that is less than some word of 32 bits is again one. -/
theorem toNat_mul_div {a b c dest : UInt32} (h : a.toNat * b.toNat / c.toNat ≤ dest.toNat) :
    (a.toUInt64 * b.toUInt64 / c.toUInt64).toUInt32.toNat = a.toNat * b.toNat / c.toNat := by
  have hlt : a.toNat * b.toNat / c.toNat < 2 ^ 32 := Nat.lt_of_le_of_lt h dest.toNat_lt
  rw [UInt64.toNat_toUInt32, UInt64.toNat_div, toNat_mul, UInt32.toNat_toUInt64, Nat.mod_eq_of_lt hlt]

/-- Half of what a side leaves free fits a signed word, also on the longest surface. -/
theorem toInt_margin {side dest : UInt32} (h : side ≤ dest) :
    ((dest - side) / 2).toInt32.toInt = ((dest.toNat - side.toNat) / 2 : Nat) := by
  have hhalf : ((dest - side) / 2).toNat = (dest.toNat - side.toNat) / 2 := by
    rw [UInt32.toNat_div, UInt32.toNat_sub_of_le _ _ h]
    rfl
  have hsmall : 2 * ((dest - side) / 2).toNat < 2 ^ 32 := by
    have hdest := dest.toNat_lt
    omega
  calc ((dest - side) / 2).toInt32.toInt
      = ((dest - side) / 2).toNat := BitVec.toInt_eq_toNat_of_lt hsmall
    _ = ((dest.toNat - side.toNat) / 2 : Nat) := by rw [hhalf]

/-! ### Both sides -/

variable {srcW srcH destW destH : UInt32}

/-- **Each side is as long as it can be.**  The comparison of products only decides which of the two is
computed. -/
theorem toNat_fit (hw : 0 < srcW) (hh : 0 < srcH) (destW destH : UInt32) :
    (fit srcW srcH destW destH).1.toNat = fittedSide srcW.toNat srcH.toNat destW.toNat destH.toNat ∧
      (fit srcW srcH destW destH).2.toNat =
        fittedSide srcH.toNat srcW.toNat destH.toNat destW.toNat := by
  rw [UInt32.lt_iff_toNat_lt, UInt32.toNat_zero] at hw hh
  unfold fit
  split
  · -- the frame is narrower than the surface, whose height it fills
    rename_i hnarrow
    rw [UInt64.lt_iff_toNat_lt, toNat_mul, toNat_mul] at hnarrow
    obtain ⟨hside, hle⟩ := fittedSide_of_ge (Nat.le_of_lt hnarrow)
    exact ⟨(toNat_mul_div hle).trans hside.symm, (fittedSide_of_le (Nat.le_of_lt hnarrow) hw).symm⟩
  · rename_i hwide
    rw [UInt64.lt_iff_toNat_lt, toNat_mul, toNat_mul, Nat.not_lt] at hwide
    obtain ⟨hside, hle⟩ := fittedSide_of_ge hwide
    exact ⟨(fittedSide_of_le hwide hh).symm, (toNat_mul_div hle).trans hside.symm⟩

/-- No side is longer than the surface's … -/
theorem fit_le (hw : 0 < srcW) (hh : 0 < srcH) (destW destH : UInt32) :
    (fit srcW srcH destW destH).1 ≤ destW ∧ (fit srcW srcH destW destH).2 ≤ destH := by
  obtain ⟨hwidth, hheight⟩ := toNat_fit hw hh destW destH
  rw [UInt32.le_iff_toNat_le, UInt32.le_iff_toNat_le, hwidth, hheight]
  exact ⟨Nat.min_le_left .., Nat.min_le_left ..⟩

/-- … and one of them is as long. -/
theorem fit_fills (srcW srcH destW destH : UInt32) :
    (fit srcW srcH destW destH).1 = destW ∨ (fit srcW srcH destW destH).2 = destH := by
  unfold fit
  split
  · exact .inr rfl
  · exact .inl rfl

theorem fit_congr {srcW' srcH' : UInt32} (hw : 0 < srcW) (hh : 0 < srcH) (hw' : 0 < srcW')
    (hh' : 0 < srcH') (h : srcW.toNat * srcH'.toNat = srcW'.toNat * srcH.toNat)
    (destW destH : UInt32) : fit srcW' srcH' destW destH = fit srcW srcH destW destH := by
  obtain ⟨hwidth, hheight⟩ := toNat_fit hw hh destW destH
  obtain ⟨hwidth', hheight'⟩ := toNat_fit hw' hh' destW destH
  rw [UInt32.lt_iff_toNat_lt, UInt32.toNat_zero] at hw hh hw' hh'
  have hturned : srcH.toNat * srcW'.toNat = srcH'.toNat * srcW.toNat := by
    rw [Nat.mul_comm, ← h, Nat.mul_comm]
  apply Prod.ext
  · rw [← UInt32.toNat_inj, hwidth, hwidth', fittedSide_congr h hh hh']
  · rw [← UInt32.toNat_inj, hheight, hheight', fittedSide_congr hturned hw hw']

theorem fit_swap (hw : 0 < srcW) (hh : 0 < srcH) (destW destH : UInt32) :
    fit srcH srcW destH destW = (fit srcW srcH destW destH).swap := by
  obtain ⟨hwidth, hheight⟩ := toNat_fit hw hh destW destH
  obtain ⟨hwidth', hheight'⟩ := toNat_fit hh hw destH destW
  apply Prod.ext
  · rw [← UInt32.toNat_inj, Prod.fst_swap, hheight, hwidth']
  · rw [← UInt32.toNat_inj, Prod.snd_swap, hwidth, hheight']

theorem fit_mono {destW' destH' : UInt32} (hw : 0 < srcW) (hh : 0 < srcH) (hdw : destW ≤ destW')
    (hdh : destH ≤ destH') :
    (fit srcW srcH destW destH).1 ≤ (fit srcW srcH destW' destH').1 ∧
      (fit srcW srcH destW destH).2 ≤ (fit srcW srcH destW' destH').2 := by
  obtain ⟨hwidth, hheight⟩ := toNat_fit hw hh destW destH
  obtain ⟨hwidth', hheight'⟩ := toNat_fit hw hh destW' destH'
  rw [UInt32.le_iff_toNat_le] at hdw hdh
  rw [UInt32.le_iff_toNat_le, UInt32.le_iff_toNat_le, hwidth, hheight, hwidth', hheight']
  exact ⟨fittedSide_mono hdw hdh _ _, fittedSide_mono hdh hdw _ _⟩

/-! ### The rectangle -/

/-- A rectangle's side on the surface's: it lies within, and what is left free before it and behind it
differs by one pixel at most. -/
structure IsCentred (corner : Int) (side dest : Nat) : Prop where
  nonneg : 0 ≤ corner
  fits : corner + side ≤ dest
  even : (corner - (dest - (corner + side))).natAbs ≤ 1

theorem isCentred_margin {side dest : UInt32} (h : side ≤ dest) :
    IsCentred ((dest - side) / 2).toInt32.toInt side.toNat dest.toNat := by
  have hle : side.toNat ≤ dest.toNat := UInt32.le_iff_toNat_le.mp h
  rw [toInt_margin h]
  constructor <;> omega

/-- The rectangle of some size in the middle of a surface. -/
def centred (destW destH : UInt32) (size : UInt32 × UInt32) : Rect :=
  ⟨((destW - size.1) / 2).toInt32, ((destH - size.2) / 2).toInt32, size.1, size.2⟩

/-- The rectangle of a letterboxed frame, from its two sides. -/
theorem destination_letterbox (hw : 0 < srcW) (hh : 0 < srcH) (destW destH : UInt32) :
    letterbox.destination srcW srcH destW destH =
      centred destW destH (fit srcW srcH destW destH) := by
  have hpositive : ¬ (srcW = 0 ∨ srcH = 0) := by
    rintro (rfl | rfl)
    · exact absurd hw (by decide)
    · exact absurd hh (by decide)
  exact if_neg hpositive

/-- **Letterboxing is exact.**  For every frame with pixels, on every surface, the rectangle has the
sides of the formula over the natural numbers, with the quotients rounded down.  So it fills a side of
the surface, and it lies in the middle of it; it depends on the shape of the frame only, it is turned
with the frame and the surface, and on a larger surface no side of it is shorter. -/
theorem letterbox_is_exact (hw : 0 < srcW) (hh : 0 < srcH) (destW destH : UInt32) :
    let r : Rect := letterbox.destination srcW srcH destW destH
    (r.width.toNat = min destW.toNat (destH.toNat * srcW.toNat / srcH.toNat) ∧
      r.height.toNat = min destH.toNat (destW.toNat * srcH.toNat / srcW.toNat)) ∧
    (r.width = destW ∨ r.height = destH) ∧
    (IsCentred r.x.toInt r.width.toNat destW.toNat ∧ IsCentred r.y.toInt r.height.toNat destH.toNat) ∧
    (∀ srcW' srcH', 0 < srcW' → 0 < srcH' →
      srcW.toNat * srcH'.toNat = srcW'.toNat * srcH.toNat →
      letterbox.destination srcW' srcH' destW destH = r) ∧
    letterbox.destination srcH srcW destH destW = ⟨r.y, r.x, r.height, r.width⟩ ∧
    ∀ destW' destH', destW ≤ destW' → destH ≤ destH' →
      let r' := letterbox.destination srcW srcH destW' destH'
      r.width ≤ r'.width ∧ r.height ≤ r'.height := by
  intro r
  obtain ⟨hwidth, hheight⟩ := toNat_fit hw hh destW destH
  obtain ⟨hwle, hhle⟩ := fit_le hw hh destW destH
  have hr : r = centred destW destH (fit srcW srcH destW destH) := destination_letterbox hw hh _ _
  refine ⟨?_, ?_, ?_, fun srcW' srcH' hw' hh' hshape => ?_, ?_, fun destW' destH' hdw hdh => ?_⟩
  · rw [hr]
    exact ⟨hwidth, hheight⟩
  · rw [hr]
    exact fit_fills srcW srcH destW destH
  · rw [hr]
    exact ⟨isCentred_margin hwle, isCentred_margin hhle⟩
  · rw [hr, destination_letterbox hw' hh', fit_congr hw hh hw' hh' hshape]
  · rw [hr, destination_letterbox hh hw, fit_swap hw hh]
    rfl
  · rw [hr, destination_letterbox hw hh]
    exact fit_mono hw hh hdw hdh

/-- The widest frame of one row on the largest surface: both margins are the largest signed word. -/
theorem letterbox_is_exact_largest :
    let r : Rect := letterbox.destination 4294967295 1 4294967295 4294967295
    r = ⟨0, 2147483647, 4294967295, 1⟩ ∧ IsCentred r.y.toInt r.height.toNat 4294967295 := by
  obtain ⟨-, -, ⟨-, hcentred⟩, -⟩ :=
    @letterbox_is_exact 4294967295 1 (by decide) (by decide) 4294967295 4294967295
  exact ⟨by decide, hcentred⟩

end DeskView.ScaleMode
