import DeskView.Proofs.Surface.Colour
import DeskView.Proofs.Surface.Remains
import Mathlib.Data.List.DropRight

/-!
# What is shown is what was committed

A target in memory takes its calls in any order: draws outside of a transaction, a begin after a begin,
a commit of nothing.  `Drawable.journal` keeps those that succeeded, each with the target as it was, and
`MemoryTarget.Recorded` is what a target's two canvases and its flag are by that list alone.

* The front canvas holds what was on the back canvas when a commit last succeeded.
* The back canvas is the front one with all that was drawn since then (`Canvas.overlaid`).
* A transaction is open if there was a begin since then.

One call keeps this up (`Recorded.call`), as it fails and changes nothing or is one of three steps; so it
holds of every target that was new once (`recorded_after`).
-/

namespace DeskView

/-! ### The calls that succeeded -/

/-- The calls after the last one that is `c`; all of them if there is none. -/
def TargetCall.sinceLast (c : TargetCall) (calls : List TargetCall) : List TargetCall :=
  calls.rtakeWhile (· ≠ c)

@[simp]
theorem TargetCall.sinceLast_nil (c : TargetCall) : c.sinceLast [] = [] := rfl

theorem TargetCall.sinceLast_concat (c : TargetCall) (calls : List TargetCall) (d : TargetCall) :
    c.sinceLast (calls ++ [d]) = if d = c then [] else c.sinceLast calls ++ [d] := by
  unfold sinceLast
  rw [List.rtakeWhile_concat]
  simp only [decide_not, Bool.not_eq_true', decide_eq_false_iff_not, ite_not]

namespace Drawable

variable {T : Type} [Drawable T]

/-- The calls on a target that succeeded, in order, each with the target as it was then. -/
def journal (target : T) : List TargetCall → List (T × TargetCall)
  | [] => []
  | c :: rest =>
    (if (call target c).1 = .ok () then [(target, c)] else []) ++ journal (call target c).2 rest

theorem journal_concat (target : T) (calls : List TargetCall) (c : TargetCall) :
    journal target (calls ++ [c]) = journal target calls ++
      if (call (after target calls) c).1 = .ok () then [(after target calls, c)] else [] := by
  induction calls generalizing target with
  | nil => exact List.append_nil _
  | cons first rest ih =>
    change _ ++ journal (call target first).2 (rest ++ [c]) = (_ ++ _) ++ _
    rw [ih, List.append_assoc]
    rfl

theorem after_concat (target : T) (calls : List TargetCall) (c : TargetCall) :
    after target (calls ++ [c]) = (call (after target calls) c).2 :=
  after_append target calls [c]

end Drawable

/-! ### What a call does -/

namespace Canvas

/-- A canvas with what a call draws laid over it; an empty rectangle draws nothing, and only a draw
draws. -/
def laid (c : Canvas) : TargetCall → Canvas
  | .draw image src dst => if src.isEmpty || dst.isEmpty then c else c.overlay image src dst
  | .begin => c
  | .commit => c

/-- A canvas with all that some calls draw laid over it, in order. -/
def overlaid (c : Canvas) (calls : List TargetCall) : Canvas := calls.foldl laid c

theorem laid_size (c : Canvas) (call : TargetCall) :
    (c.laid call).width = c.width ∧ (c.laid call).height = c.height ∧
      (c.laid call).posted = c.posted ∧ (c.WellFormed → (c.laid call).WellFormed) := by
  cases call with
  | begin => exact ⟨rfl, rfl, rfl, id⟩
  | commit => exact ⟨rfl, rfl, rfl, id⟩
  | draw image src dst =>
    simp only [laid]
    split
    · exact ⟨rfl, rfl, rfl, id⟩
    · exact ⟨rfl, rfl, rfl, fun hc => hc.overlay image src dst⟩

theorem overlaid_size (c : Canvas) (calls : List TargetCall) :
    (c.overlaid calls).width = c.width ∧ (c.overlaid calls).height = c.height ∧
      (c.overlaid calls).posted = c.posted ∧ (c.WellFormed → (c.overlaid calls).WellFormed) := by
  induction calls generalizing c with
  | nil => exact ⟨rfl, rfl, rfl, id⟩
  | cons call rest ih =>
    obtain ⟨hw, hh, hp, hwf⟩ := c.laid_size call
    obtain ⟨hw', hh', hp', hwf'⟩ := ih (c.laid call)
    exact ⟨hw'.trans hw, hh'.trans hh, hp'.trans hp, hwf' ∘ hwf⟩

@[simp]
theorem overlaid_nil (c : Canvas) : c.overlaid [] = c := rfl

theorem overlaid_append (c : Canvas) (calls more : List TargetCall) :
    c.overlaid (calls ++ more) = (c.overlaid calls).overlaid more := List.foldl_append

theorem overlaid_concat (c : Canvas) (calls : List TargetCall) (call : TargetCall) :
    c.overlaid (calls ++ [call]) = (c.overlaid calls).laid call := c.overlaid_append calls [call]

/-- A pixel is there exactly if it lies on the canvas. -/
theorem pixel?_spec {c : Canvas} (hc : c.WellFormed) (x y : UInt32) :
    let bytes := c.pixels.extract ((y.toNat * c.width.toNat + x.toNat) * 4)
      ((y.toNat * c.width.toNat + x.toNat) * 4 + 4)
    (x < c.width ∧ y < c.height → c.pixel? x y = some bytes ∧ bytes.size = 4) ∧
      (¬ (x < c.width ∧ y < c.height) → c.pixel? x y = none) := by
  intro bytes
  constructor
  · rintro ⟨hx, hy⟩
    refine ⟨pixel?_eq_some hc hx hy, ?_⟩
    have hroom := offset_add_le (UInt32.lt_iff_toNat_lt.mp hx) (UInt32.lt_iff_toNat_lt.mp hy)
    rw [← hc] at hroom
    unfold bytesPerPixel at hroom
    rw [Array.size_extract]
    omega
  · intro houtside
    unfold pixel?
    rw [if_pos]
    rw [UInt32.le_iff_toNat_le, UInt32.le_iff_toNat_le]
    rw [UInt32.lt_iff_toNat_lt, UInt32.lt_iff_toNat_lt] at houtside
    omega

end Canvas

namespace MemoryTarget

open Drawable TargetCall

/-- The commits among the calls that succeeded. -/
def commits (done : List (MemoryTarget × TargetCall)) : List (MemoryTarget × TargetCall) :=
  done.filter (·.2 = .commit)

/-- The bytes of the back canvas as they were when a commit last succeeded; zeros before the first. -/
def lastCommitted (width height : UInt32) (done : List (MemoryTarget × TargetCall)) : Array UInt8 :=
  match (commits done).getLast? with
  | some (target, _) => target.back.pixels
  | none => Array.replicate (width.toNat * height.toNat * 4) 0

theorem commits_concat (done : List (MemoryTarget × TargetCall)) (t : MemoryTarget) (c : TargetCall) :
    commits (done ++ [(t, c)]) = commits done ++ if c = .commit then [(t, c)] else [] := by
  unfold commits
  rw [List.filter_append, List.filter_singleton]
  simp

theorem lastCommitted_concat (width height : UInt32) (done : List (MemoryTarget × TargetCall))
    (t : MemoryTarget) (c : TargetCall) :
    lastCommitted width height (done ++ [(t, c)]) =
      if c = .commit then t.back.pixels else lastCommitted width height done := by
  unfold lastCommitted
  rw [commits_concat]
  by_cases hc : c = .commit
  · rw [if_pos hc, if_pos hc, List.getLast?_concat]
  · rw [if_neg hc, if_neg hc, List.append_nil]

/-- What a target is, by the calls on it that succeeded. -/
structure Recorded (w h : UInt32) (done : List (MemoryTarget × TargetCall))
    (t : MemoryTarget) : Prop where
  width : t.front.width = w
  height : t.front.height = h
  wellFormed : t.front.WellFormed
  /-- What is shown was drawn when a commit last succeeded. -/
  shown : t.front.pixels = lastCommitted w h done
  posted : t.front.posted = (commits done).length
  /-- What is drawn on is what is shown, with all draws since then. -/
  drawn : t.back = t.front.overlaid (TargetCall.commit.sinceLast (done.map Prod.snd))
  /-- A transaction is open if one was begun since then. -/
  isOpen : t.inTransaction = true ↔ .begin ∈ TargetCall.commit.sinceLast (done.map Prod.snd)

variable {width height : UInt32} {done : List (MemoryTarget × TargetCall)} {t : MemoryTarget}

theorem recorded_new (width height : UInt32) : Recorded width height [] (new width height) where
  width := rfl
  height := rfl
  wellFormed := Canvas.wellFormed_blank width height
  shown := rfl
  posted := rfl
  drawn := rfl
  isOpen := by simp [new]

/-- The two canvases have as many bytes, so that one can always be copied to the other. -/
theorem Recorded.size_front (h : Recorded width height done t) :
    t.back.width = width ∧ t.back.height = height ∧ t.back.WellFormed ∧
      t.front.pixels.size = t.back.pixels.size := by
  obtain ⟨hw, hh, -, hwf⟩ :=
    t.front.overlaid_size (TargetCall.commit.sinceLast (done.map Prod.snd))
  rw [← h.drawn] at hw hh hwf
  have hback := hwf h.wellFormed
  refine ⟨hw.trans h.width, hh.trans h.height, hback, ?_⟩
  rw [h.wellFormed, hback, hw, hh]

/-- A draw is refused, and nothing changes, or the image is laid over the back canvas. -/
theorem draw_spec (t : MemoryTarget) (image : Image) (src dst : Rect) :
    (t.inTransaction = true ∧ image.format.bytesPerPixel = Canvas.bytesPerPixel ∧
      t.draw image src dst = (.ok (), { t with back := t.back.laid (.draw image src dst) })) ∨
    (¬ (t.inTransaction = true ∧ image.format.bytesPerPixel = Canvas.bytesPerPixel) ∧
      ∃ message, t.draw image src dst = (.error (.draw message), t)) := by
  by_cases hok : t.inTransaction = true ∧ image.format.bytesPerPixel = Canvas.bytesPerPixel
  · exact .inl ⟨hok.1, hok.2, draw_of_inTransaction hok.1 hok.2 src dst⟩
  · refine .inr ⟨hok, ?_⟩
    unfold draw
    by_cases hopen : t.inTransaction = true
    · have hformat : image.format.bytesPerPixel ≠ Canvas.bytesPerPixel := fun h => hok ⟨hopen, h⟩
      rw [if_neg (by simp [hopen]), if_pos hformat]
      exact ⟨_, rfl⟩
    · rw [if_pos (by simp [hopen])]
      exact ⟨_, rfl⟩

/-- A commit is refused, and nothing changes, or what was drawn is shown. -/
theorem Recorded.commit_spec (h : Recorded width height done t) :
    (t.inTransaction = true ∧
      t.commit = (.ok (), ⟨{ t.back with posted := t.back.posted + 1 },
        { t.back with posted := t.back.posted + 1 }, false⟩)) ∨
    (¬ t.inTransaction = true ∧ t.commit = (.error (.draw "commit outside transaction"), t)) := by
  by_cases hopen : t.inTransaction = true
  · obtain ⟨-, -, -, hsize⟩ := h.size_front
    exact .inl ⟨hopen, commit_of_size hopen hsize⟩
  · exact .inr ⟨hopen, if_pos (by simp [hopen])⟩

/-- Every call succeeds, or it is refused and leaves the target as it is. -/
theorem Recorded.call_cases (h : Recorded width height done t) (c : TargetCall) :
    (call t c).1 = .ok () ∨ ∃ e, call t c = (.error e, t) := by
  cases c with
  | begin => exact .inl rfl
  | draw image src dst =>
    rcases draw_spec t image src dst with ⟨-, -, hdraw⟩ | ⟨-, message, hdraw⟩
    · exact .inl (congrArg Prod.fst hdraw)
    · exact .inr ⟨_, hdraw⟩
  | commit =>
    rcases h.commit_spec with ⟨-, hcommit⟩ | ⟨-, hcommit⟩
    · exact .inl (congrArg Prod.fst hcommit)
    · exact .inr ⟨_, hcommit⟩

/-- Nothing but a commit that succeeds changes what is shown. -/
theorem Recorded.eq_commit_of_front_ne (h : Recorded width height done t) {c : TargetCall}
    (hchanged : (call t c).2.front ≠ t.front) : c = .commit ∧ (call t c).1 = .ok () := by
  rcases h.call_cases c with hok | ⟨e, hfailed⟩
  · refine ⟨?_, hok⟩
    cases c with
    | begin => exact absurd rfl hchanged
    | commit => rfl
    | draw image src dst =>
      rcases draw_spec t image src dst with ⟨-, -, hdraw⟩ | ⟨-, message, hdraw⟩
      · exact absurd (congrArg (·.2.front) hdraw) hchanged
      · exact absurd (congrArg (·.2.front) hdraw) hchanged
  · exact absurd (congrArg (·.2.front) hfailed) hchanged

/-- Until the next commit what is shown stays as it is, and the back canvas takes all that is drawn. -/
theorem Recorded.uncommitted (h : Recorded width height done t) {c : TargetCall} (hc : c ≠ .commit)
    {t' : MemoryTarget} (hfront : t'.front = t.front) (hback : t'.back = t.back.laid c)
    (hopen : t'.inTransaction = true ↔ t.inTransaction = true ∨ .begin = c) :
    Recorded width height (done ++ [(t, c)]) t' := by
  have hsince : TargetCall.commit.sinceLast ((done ++ [(t, c)]).map Prod.snd) =
      TargetCall.commit.sinceLast (done.map Prod.snd) ++ [c] := by
    rw [List.map_append, List.map_singleton, sinceLast_concat, if_neg hc]
  refine ⟨hfront ▸ h.width, hfront ▸ h.height, hfront ▸ h.wellFormed, ?_, ?_, ?_, ?_⟩
  · rw [hfront, h.shown, lastCommitted_concat, if_neg hc]
  · rw [hfront, h.posted, commits_concat, if_neg hc, List.append_nil]
  · rw [hsince, Canvas.overlaid_concat, hback, hfront, ← h.drawn]
  · rw [hsince, List.mem_append, List.mem_singleton, hopen, h.isOpen]

/-- A commit shows what is on the back canvas, and closes the transaction. -/
theorem Recorded.committed (h : Recorded width height done t) :
    Recorded width height (done ++ [(t, TargetCall.commit)])
      ⟨{ t.back with posted := t.back.posted + 1 }, { t.back with posted := t.back.posted + 1 },
        false⟩ := by
  have hsince :
      TargetCall.commit.sinceLast ((done ++ [(t, TargetCall.commit)]).map Prod.snd) = [] := by
    rw [List.map_append, List.map_singleton, sinceLast_concat, if_pos rfl]
  obtain ⟨hw, hh, hback, -⟩ := h.size_front
  have hposted : t.back.posted = t.front.posted := by
    rw [h.drawn]
    exact (t.front.overlaid_size _).2.2.1
  refine ⟨hw, hh, hback, ?_, ?_, ?_, ?_⟩
  · rw [lastCommitted_concat, if_pos rfl]
  · change t.back.posted + 1 = _
    rw [commits_concat, if_pos rfl, List.length_append, ← h.posted, hposted, List.length_singleton]
  · rw [hsince, Canvas.overlaid_nil]
  · rw [hsince]
    simp

/-- **One call.**  The record is kept by noting the call if it succeeds. -/
theorem Recorded.call (h : Recorded width height done t) (c : TargetCall) :
    Recorded width height (done ++ if (call t c).1 = .ok () then [(t, c)] else []) (call t c).2 := by
  rcases h.call_cases c with hok | ⟨e, hfailed⟩
  · rw [if_pos hok]
    cases c with
    | begin => exact h.uncommitted (by simp) rfl rfl (by simp [Drawable.call, Drawable.begin, begin])
    | draw image src dst =>
      change (t.draw image src dst).1 = .ok () at hok
      change Recorded width height _ (t.draw image src dst).2
      rcases draw_spec t image src dst with ⟨hopen, -, hdraw⟩ | ⟨-, message, hdraw⟩
      · rw [hdraw]
        exact h.uncommitted (by simp) rfl rfl (by simp)
      · rw [hdraw] at hok
        cases hok
    | commit =>
      change t.commit.1 = .ok () at hok
      change Recorded width height _ t.commit.2
      rcases h.commit_spec with ⟨hopen, hcommit⟩ | ⟨-, hcommit⟩
      · rw [hcommit]
        exact h.committed
      · rw [hcommit] at hok
        cases hok
  · rw [hfailed]
    simpa using h

/-- All calls on a new target are recorded. -/
theorem recorded_after (width height : UInt32) (calls : List TargetCall) :
    Recorded width height (journal (new width height) calls) (after (new width height) calls) := by
  induction calls using List.reverseRecOn with
  | nil => exact recorded_new width height
  | append_singleton calls c ih =>
    rw [journal_concat, after_concat]
    exact ih.call c

/-- **What is shown changes only by a commit.**  There is a new target of any size, unless its bytes are
more than a block of memory can have.  After any calls on a new target:

* what is shown are the bytes that were drawn on when a commit last succeeded, or zeros, and the commits
  that succeeded are counted;
* both canvases have the target's size and all bytes for it, so that a commit can always copy them, and
  each pixel on them is four of these bytes;
* a begin succeeds, and a commit does exactly if there was a begin since the last one that succeeded;
* a draw succeeds exactly if there was one and the image has four bytes for each pixel;
* a call that fails leaves the target as it is, and only a commit changes what is shown. -/
theorem posted_canvas_changes_by_commit (width height : UInt32) :
    ((∃ fresh, new? width height = some fresh) ↔ width.toNat * height.toNat * 4 < 2 ^ 63) ∧
    ∀ fresh, new? width height = some fresh → ∀ calls : List TargetCall,
      let t := after fresh calls
      let done := journal fresh calls
      let opened := TargetCall.begin ∈ TargetCall.commit.sinceLast (done.map Prod.snd)
      (t.front.pixels = lastCommitted width height done ∧ t.front.posted = (commits done).length) ∧
      (∀ c ∈ [t.front, t.back], c.width = width ∧ c.height = height ∧
        c.pixels.size = width.toNat * height.toNat * 4 ∧
        ∀ x y : UInt32,
          let bytes := c.pixels.extract ((y.toNat * width.toNat + x.toNat) * 4)
            ((y.toNat * width.toNat + x.toNat) * 4 + 4)
          (x < width ∧ y < height → c.pixel? x y = some bytes ∧ bytes.size = 4) ∧
            (¬ (x < width ∧ y < height) → c.pixel? x y = none)) ∧
      t.begin.1 = .ok (width, height) ∧
      ((t.commit.1 = .ok () ↔ opened) ∧
        (t.commit.1 = .error (.draw "commit outside transaction") ↔ ¬ opened)) ∧
      (∀ image src dst,
        let drawable := opened ∧ image.format.bytesPerPixel = 4
        ((t.draw image src dst).1 = .ok () ↔ drawable) ∧
          ((∃ e, (t.draw image src dst).1 = .error e) ↔ ¬ drawable)) ∧
      ∀ c, ((call t c).1 ≠ .ok () → (call t c).2 = t) ∧
        ((call t c).2.front ≠ t.front → c = .commit ∧ (call t c).1 = .ok ()) := by
  refine ⟨exists_new?_iff, fun fresh hfresh calls => ?_⟩
  intro t done opened
  obtain ⟨-, rfl⟩ := new?_eq_some_iff.mp hfresh
  have h : Recorded width height done t := recorded_after width height calls
  obtain ⟨hw, hh, hback, -⟩ := h.size_front
  refine ⟨⟨h.shown, h.posted⟩, fun c hc => ?_, ?_, ?_, fun image src dst => ?_, fun c => ?_⟩
  · have hcanvas : c.width = width ∧ c.height = height ∧ c.WellFormed := by
      rcases List.mem_pair.mp hc with rfl | rfl
      · exact ⟨h.width, h.height, h.wellFormed⟩
      · exact ⟨hw, hh, hback⟩
    obtain ⟨rfl, rfl, hwf⟩ := hcanvas
    exact ⟨rfl, rfl, hwf, c.pixel?_spec hwf⟩
  · rw [← hw, ← hh]
    rfl
  · rcases h.commit_spec with ⟨hopen, hcommit⟩ | ⟨hclosed, hcommit⟩
    · have hopened : opened := h.isOpen.mp hopen
      simp [hcommit, hopened]
    · have hopened : ¬ opened := mt h.isOpen.mpr hclosed
      simp [hcommit, hopened]
  · intro drawable
    have hdrawable : drawable ↔
        t.inTransaction = true ∧ image.format.bytesPerPixel = Canvas.bytesPerPixel :=
      and_congr_left' h.isOpen.symm
    rw [hdrawable]
    rcases draw_spec t image src dst with ⟨hopen, hformat, hdraw⟩ | ⟨hrefused, message, hdraw⟩
    · simp [hdraw, hopen, hformat]
    · simp [hdraw, hrefused]
  · refine ⟨fun hne => ?_, h.eq_commit_of_front_ne⟩
    rcases h.call_cases c with hok | ⟨e, hfailed⟩
    · exact absurd hok hne
    · rw [hfailed]

/-- A pixel that was committed is shown, and the one that was drawn over it is not before the next commit,
which will succeed. -/
theorem posted_canvas_changes_by_commit_of_one :
    let draws := fun bytes => TargetCall.draw ⟨1, 1, .rgba8, bytes⟩ (.sized 1 1) (.sized 1 1)
    let t := after (new 1 1) [.begin, draws #[1, 2, 3, 4], .commit, .begin, draws #[9, 9, 9, 9]]
    new? 1 1 = some (new 1 1) ∧ t.front.pixels = #[1, 2, 3, 4] ∧ t.front.posted = 1 ∧
      t.commit.1 = .ok () := by
  intro draws t
  have hnew : new? 1 1 = some (new 1 1) := rfl
  obtain ⟨⟨hshown, hposted⟩, -, -, ⟨hcommit, -⟩, -⟩ :=
    (posted_canvas_changes_by_commit 1 1).2 (new 1 1) hnew
      [.begin, draws #[1, 2, 3, 4], .commit, .begin, draws #[9, 9, 9, 9]]
  exact ⟨hnew, hshown.trans (by decide), hposted.trans (by decide), hcommit.mpr (by decide)⟩

end MemoryTarget

end DeskView
