import DeskView.Proofs.Surface.Events
import DeskView.Proofs.Surface.Overlay
import Mathlib.Algebra.GroupWithZero.Nat

/-!
# Frames on in-memory targets

A target that was only ever drawn on in whole transactions is at rest between them: it shows just what
was drawn (`MemoryTarget.AtRest`).  On such a target a transaction with a 32-bit image always succeeds,
and what it shows then is the old canvas with the image laid over it (`transact_of_atRest`).

`Surface.present_of_atRest` says the same of a surface all of whose targets are at rest: a frame is
drawn on the bound target alone and every other canvas stays as it was.
-/

namespace DeskView

namespace Canvas

/-- An overlay that takes no pixel changes nothing. -/
theorem overlay_eq_self {image : Image} {src dst : Rect}
    (h : ∀ x y, sample image src dst x y = none) (c : Canvas) : c.overlay image src dst = c := by
  have hpixels : (c.overlay image src dst).pixels = c.pixels := by
    apply Array.ext
    · simp [overlay]
    · intro i hi hi'
      simp [overlay, h]
  calc c.overlay image src dst
      = { c with pixels := (c.overlay image src dst).pixels } := rfl
    _ = c := by rw [hpixels]

/-- Nothing is taken from an image without pixels, and nothing goes to a destination without any. -/
theorem sample_eq_none_of_isEmpty {image : Image} {dst : Rect}
    (hformat : image.format.bytesPerPixel = bytesPerPixel) (himage : image.WellFormed)
    (h : ((Rect.sized image.width image.height).isEmpty || dst.isEmpty) = true) (x y : Nat) :
    sample image (.sized image.width image.height) dst x y = none := by
  cases hsample : sample image (.sized image.width image.height) dst x y with
  | none => rfl
  | some s =>
    have hle := sample_add_le hsample
    rw [himage, Image.byteLength, hformat] at hle
    have hdst : dst.contains x y = true := by
      unfold sample at hsample
      split at hsample
      · assumption
      · cases hsample
    rw [Rect.contains_iff] at hdst
    simp only [Rect.isEmpty, Rect.sized, Bool.or_eq_true, decide_eq_true_eq] at h
    rcases h with (hw | hh) | (hw | hh)
    · rw [of_decide_eq_true hw] at hle
      simp [bytesPerPixel] at hle
    · rw [of_decide_eq_true hh] at hle
      simp [bytesPerPixel] at hle
    · rw [hw, UInt32.toNat_zero] at hdst
      omega
    · rw [hh, UInt32.toNat_zero] at hdst
      omega

/-- The canvas with an image shown on a part of it, and counted. -/
def posting (c : Canvas) (image : Image) (dst : Rect) : Canvas :=
  { c.overlay image (.sized image.width image.height) dst with posted := c.posted + 1 }

end Canvas

namespace MemoryTarget

theorem new?_eq_some_iff {width height : UInt32} {t : MemoryTarget} :
    new? width height = some t ↔ Canvas.canExist width height = true ∧ t = new width height := by
  unfold new?
  split
  · rename_i hexists
    simp [hexists, eq_comm]
  · rename_i hexists
    simp [hexists]

/-- Targets are made of every size whose bytes fit into a block of memory. -/
theorem exists_new?_iff {width height : UInt32} :
    (∃ t, new? width height = some t) ↔ width.toNat * height.toNat * 4 < 2 ^ 63 := by
  simp only [new?_eq_some_iff, exists_and_left, exists_eq, and_true, Canvas.canExist, Memory.canHold,
    decide_eq_true_eq]
  change width.toNat * height.toNat * 4 ≤ 2 ^ 63 - 1 ↔ _
  omega

/-- A target as it is when it is made. -/
def IsNew (t : MemoryTarget) : Prop := ∃ width height, new? width height = some t

/-- Between two frames: the target shows just what was drawn on it. -/
structure AtRest (t : MemoryTarget) : Prop where
  shown : t.front = t.back
  wellFormed : t.front.WellFormed
  /-- There can be canvases of its size. -/
  canExist : Canvas.canExist t.front.width t.front.height = true

theorem IsNew.atRest {t : MemoryTarget} (h : t.IsNew) : t.AtRest := by
  obtain ⟨width, height, hnew⟩ := h
  obtain ⟨hexists, rfl⟩ := new?_eq_some_iff.mp hnew
  exact ⟨rfl, Canvas.wellFormed_blank width height, hexists⟩

/-- A draw leaves the target as it is, or lays the image over what is drawn on. -/
theorem draw_cases (t : MemoryTarget) (image : Image) (src dst : Rect) :
    (t.draw image src dst).2 = t ∨
      t.draw image src dst = (.ok (), { t with back := t.back.overlay image src dst }) := by
  unfold draw
  split
  · exact .inl rfl
  · split
    · exact .inl rfl
    · split
      · exact .inl rfl
      · exact .inr rfl

/-- **A transaction on a target at rest.**  It makes its three calls, succeeds, and leaves the target
at rest with the image shown over what was there. -/
theorem transact_of_atRest {t : MemoryTarget} (ht : t.AtRest) {image : Image}
    (hformat : image.format.bytesPerPixel = Canvas.bytesPerPixel) (himage : image.WellFormed)
    (place : UInt32 × UInt32 → Rect) :
    Drawable.transact t image place =
      let dst := place (t.front.width, t.front.height)
      ⟨.ok (), ⟨t.front.posting image dst, t.front.posting image dst, false⟩,
        [.begin, .draw image (.sized image.width image.height) dst, .commit]⟩ := by
  obtain ⟨back, front, inTransaction⟩ := t
  obtain ⟨hshown, hwf, -⟩ := ht
  dsimp only at hshown hwf
  subst hshown
  have hdraw : ∀ dst, draw ⟨front, front, true⟩ image (.sized image.width image.height) dst =
      (.ok (), ⟨front.overlay image (.sized image.width image.height) dst, front, true⟩) := by
    intro dst
    unfold draw
    rw [if_neg (by simp), if_neg (by rw [hformat]; simp)]
    -- a draw from or to nothing is left out, which is what an overlay would do with it
    split
    · rename_i hempty
      rw [Canvas.overlay_eq_self (Canvas.sample_eq_none_of_isEmpty hformat himage hempty)]
    · rfl
  have hcommit : ∀ dst, commit
      ⟨front.overlay image (.sized image.width image.height) dst, front, true⟩ =
      (.ok (), ⟨front.posting image dst, front.posting image dst, false⟩) := by
    intro dst
    -- the copy to the front canvas needs both to have as many bytes, which an overlay keeps
    have hsize : front.pixels.size =
        (front.overlay image (.sized image.width image.height) dst).pixels.size := by
      simp [Canvas.overlay]
    unfold commit
    rw [if_neg (by simp)]
    dsimp only
    rw [if_pos hsize]
    rfl
  unfold Drawable.transact
  dsimp only [Drawable.begin, Drawable.draw, Drawable.commit, begin]
  rw [hdraw]
  dsimp only
  rw [hcommit]

end MemoryTarget

namespace Surface

/-- The canvas that a target shows. -/
def canvas? (s : Surface MemoryTarget) (id : Nat) : Option Canvas := (s.targets[id]?).map (·.front)

/-- How many transactions were committed on the targets that were ever bound, in all. -/
def posted (s : Surface MemoryTarget) : Nat := (s.targets.toList.map (·.front.posted)).sum

/-- Every target that was ever bound is at rest. -/
def AtRest (s : Surface MemoryTarget) : Prop :=
  ∀ (id : Nat) (t : MemoryTarget), s.targets[id]? = some t → t.AtRest

/-- A surface that gets no used targets stays at rest through every event, and nothing is posted by
one. -/
theorem AtRest.apply {s : Surface MemoryTarget} (hs : s.AtRest) {event : SurfaceEvent MemoryTarget}
    (hnew : ∀ target, event = .created target → target.IsNew) :
    (s.apply event).AtRest ∧ (s.apply event).posted = s.posted := by
  cases event with
  | created target =>
    constructor
    · intro id t ht
      change (s.targets.push target)[id]? = some t at ht
      rw [Array.getElem?_push] at ht
      split at ht
      · cases ht
        exact (hnew _ rfl).atRest
      · exact hs id t ht
    · obtain ⟨width, height, htarget⟩ := hnew target rfl
      obtain ⟨-, rfl⟩ := MemoryTarget.new?_eq_some_iff.mp htarget
      simp [Surface.apply, posted, MemoryTarget.new, Canvas.blank]
  | changed width height format => exact ⟨hs, rfl⟩
  | destroyed => exact ⟨hs, rfl⟩

/-- The surface with another canvas shown by a target. -/
def showing (s : Surface MemoryTarget) (id : Nat) (c : Canvas) : Surface MemoryTarget :=
  { s with targets := s.targets.setIfInBounds id ⟨c, c, false⟩ }

/-- **A frame on a surface at rest.**  It is dropped if no target is bound; else it is drawn, and what
changes is the canvas of the bound target, which has the image laid over it. -/
theorem present_of_atRest {s : Surface MemoryTarget} {events : List (SurfaceEvent MemoryTarget)}
    (hs : s.AtRest) (hf : s.Follows events) {image : Image}
    (hformat : image.format.bytesPerPixel = Canvas.bytesPerPixel) (himage : image.WellFormed) :
    (SurfaceEvent.bound? events = none ∧ s.present image = ⟨.ok .dropped, s, []⟩) ∨
    (∃ id old, SurfaceEvent.bound? events = some id ∧ s.canvas? id = some old ∧ old.WellFormed ∧
      (s.present image).outcome = .ok .drawn ∧
      (s.present image).surface =
        s.showing id (old.posting image (s.place image (old.width, old.height)))) := by
  rcases present_cases s image with ⟨hnone, hp⟩ | ⟨id, target, hvalid, hbound, hsurface, -, houtcome⟩
  · refine .inl ⟨?_, hp⟩
    rcases hnone with hinvalid | hunbound
    · rw [hf.valid, hf.handle] at hinvalid
      cases hb : SurfaceEvent.bound? events with
      | none => rfl
      | some id =>
        rw [hb] at hinvalid
        cases hinvalid
    · exact hf.bound?_eq_none_iff.mp hunbound
  · obtain ⟨hhandle, htarget⟩ := bound?_eq_some_iff.mp hbound
    have hrest := hs id target htarget
    have htransact := MemoryTarget.transact_of_atRest hrest hformat himage (s.place image)
    refine .inr ⟨id, target.front, hf.handle ▸ hhandle, ?_, hrest.wellFormed, ?_, ?_⟩
    · unfold canvas?
      rw [htarget]
      rfl
    · rw [houtcome, htransact]
    · rw [hsurface, htransact]
      rfl

/-- Showing something on one target leaves all other canvases alone. -/
theorem canvas?_showing_of_ne {s : Surface MemoryTarget} {id id' : Nat} (c : Canvas)
    (h : id' ≠ id) : (s.showing id c).canvas? id' = s.canvas? id' := by
  unfold canvas? showing
  rw [Array.getElem?_setIfInBounds_ne (Ne.symm h)]

theorem canvas?_showing_self {s : Surface MemoryTarget} {id : Nat} {old : Canvas} (c : Canvas)
    (h : s.canvas? id = some old) : (s.showing id c).canvas? id = some c := by
  unfold canvas? at h ⊢
  obtain ⟨t, ht, -⟩ := Option.map_eq_some_iff.mp h
  have hid : id < s.targets.size := (Array.getElem?_eq_some_iff.mp ht).1
  unfold showing
  rw [Array.getElem?_setIfInBounds_self_of_lt hid]
  rfl

/-- The window system has no part in what is shown. -/
theorem Follows.showing {s : Surface MemoryTarget} {events : List (SurfaceEvent MemoryTarget)}
    (h : s.Follows events) (id : Nat) (c : Canvas) : (s.showing id c).Follows events :=
  ⟨(Array.size_setIfInBounds).trans h.targets, h.valid, h.handle, h.size⟩

/-- A target that shows another canvas of the same size stays at rest. -/
theorem AtRest.showing {s : Surface MemoryTarget} (hs : s.AtRest) {id : Nat} {old c : Canvas}
    (hold : s.canvas? id = some old) (hc : c.WellFormed) (hw : c.width = old.width)
    (hh : c.height = old.height) : (s.showing id c).AtRest := by
  intro id' t ht
  obtain ⟨t', ht', rfl⟩ := Option.map_eq_some_iff.mp hold
  unfold Surface.showing at ht
  by_cases h : id = id'
  · subst h
    rw [Array.getElem?_setIfInBounds_self_of_lt (Array.getElem?_eq_some_iff.mp ht').1] at ht
    cases ht
    exact ⟨rfl, hc, by rw [hw, hh]; exact (hs id t' ht').canExist⟩
  · rw [Array.getElem?_setIfInBounds_ne h] at ht
    exact hs id' t ht

/-- One more transaction on one target is one more in all. -/
theorem posted_showing {s : Surface MemoryTarget} {id : Nat} {old c : Canvas}
    (h : s.canvas? id = some old) (hc : c.posted = old.posted + 1) :
    (s.showing id c).posted = s.posted + 1 := by
  -- by induction on the targets, up to the one that is drawn on
  have hsum : ∀ (ts : List MemoryTarget) (id : Nat) (t t' : MemoryTarget), ts[id]? = some t →
      t'.front.posted = t.front.posted + 1 →
      ((ts.set id t').map (·.front.posted)).sum = (ts.map (·.front.posted)).sum + 1 := by
    intro ts
    induction ts with
    | nil =>
      intro id t t' ht
      simp at ht
    | cons first rest ih =>
      intro id t t' ht hposted
      cases id with
      | zero =>
        rw [List.getElem?_cons_zero, Option.some.injEq] at ht
        subst ht
        simp only [List.set_cons_zero, List.map_cons, List.sum_cons]
        omega
      | succ id =>
        rw [List.getElem?_cons_succ] at ht
        simp only [List.set_cons_succ, List.map_cons, List.sum_cons, ih id t t' ht hposted]
        omega
  unfold canvas? at h
  obtain ⟨t, ht, rfl⟩ := Option.map_eq_some_iff.mp h
  unfold posted showing
  dsimp only
  rw [Array.toList_setIfInBounds]
  exact hsum s.targets.toList id t ⟨c, c, false⟩ (by rw [Array.getElem?_toList, ht]) hc

end Surface

end DeskView
