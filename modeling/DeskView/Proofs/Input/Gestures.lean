import DeskView.Input.Pointer
import Mathlib.Data.List.Chain
import Mathlib.Data.List.DropRight
import Mathlib.Data.List.Induction

/-!
# Gestures that lose the mouse

When the mouse is taken away, a `Pointer` cancels the gesture if it counts a button as down.  It keeps one
number for all buttons: a press adds one, a release takes one off as long as there is one, and a lost
capture sets it to zero.  So the number is a `level` of presses over releases, and it is positive exactly
if lately there were more presses than releases (`le_level_iff`).

What it should count is the buttons that went down since the mouse was last taken away and did not come up
again (`WindowEvent.countDown`).  It never counts more than these (`level_le_countDown`), so it cancels no
gesture that is not there.  It may count less: a button that went down before the mouse was taken away may
come up after that, and then its release is taken off for another button
(`lost_capture_cancels_unless_outweighed`).
-/

namespace DeskView

/-! ### Levels -/

/-- How far presses are ahead of releases, where a release counts only if there is something to
release. -/
def level (strokes : List Bool) : Nat :=
  strokes.foldl (fun n pressed => if pressed then n + 1 else n - 1) 0

@[simp]
theorem level_nil : level [] = 0 := rfl

theorem level_concat (strokes : List Bool) (pressed : Bool) :
    level (strokes ++ [pressed]) = if pressed then level strokes + 1 else level strokes - 1 := by
  unfold level
  rw [List.foldl_append, List.foldl_cons, List.foldl_nil]

/-- The level is the most by which the presses are ahead in some last part of the strokes. -/
theorem le_level_iff {strokes : List Bool} {n : Nat} :
    n ≤ level strokes ↔ ∃ last, last <:+ strokes ∧ last.count false + n ≤ last.count true := by
  induction strokes using List.reverseRecOn generalizing n with
  | nil =>
    simp only [level_nil, List.suffix_nil, exists_eq_left, List.count_nil]
    omega
  | append_singleton strokes pressed ih =>
    cases n with
    | zero => exact ⟨fun _ => ⟨[], List.nil_suffix, Nat.le_refl 0⟩, fun _ => Nat.zero_le _⟩
    | succ n =>
      -- a part from which something is left over is not empty, and so it ends with the new stroke
      have hpart : (∃ last, last <:+ strokes ++ [pressed] ∧
            last.count false + (n + 1) ≤ last.count true) ↔
          ∃ last, last <:+ strokes ∧
            last.count false + (if pressed then n else n + 2) ≤ last.count true := by
        constructor
        · rintro ⟨last, hlast, hcount⟩
          rcases List.suffix_concat_iff.mp hlast with rfl | ⟨rest, rfl, hrest⟩
          · simp at hcount
          · refine ⟨rest, hrest, ?_⟩
            cases pressed <;> simp at hcount ⊢ <;> omega
        · rintro ⟨rest, hrest, hcount⟩
          refine ⟨rest ++ [pressed], List.suffix_append_self_iff.mpr hrest, ?_⟩
          cases pressed <;> simp at hcount ⊢ <;> omega
      rw [hpart, ← ih, level_concat]
      cases pressed
      · simp
        omega
      · simp

namespace WindowEvent

/-! ### Buttons -/

/-- Whether a button goes down, if the event is of a button. -/
def stroke? : WindowEvent → Option Bool
  | .button _ pressed _ _ => some pressed
  | _ => none

/-- Whether the button `b` goes down, if the event is of that one. -/
def strokeOf? (b : MouseButton) : WindowEvent → Option Bool
  | .button which pressed _ _ => if which = b then some pressed else none
  | _ => none

/-- The place in the client area that the event reports, if it reports one. -/
def place? : WindowEvent → Option (Int32 × Int32)
  | .move x y => some (x, y)
  | .button _ _ x y => some (x, y)
  | _ => none

/-- The presses and releases among some events, of whatever button. -/
def strokes (events : List WindowEvent) : List Bool := events.filterMap stroke?

/-- The presses and releases of the button `b`. -/
def strokesOf (b : MouseButton) (events : List WindowEvent) : List Bool :=
  events.filterMap (strokeOf? b)

/-- Whether each button is pressed and released by turns, beginning with a press. -/
def AreOrderly (events : List WindowEvent) : Prop :=
  ∀ b, (false :: strokesOf b events).IsChain (· ≠ ·)

/-- Whether the button `b` was pressed and not released since. -/
def isDown (b : MouseButton) (events : List WindowEvent) : Bool :=
  (strokesOf b events).getLast?.getD false

/-- How many buttons were pressed and not released since. -/
def countDown (events : List WindowEvent) : Nat :=
  [MouseButton.left, .right, .middle].countP fun b => isDown b events

/-- The events since the mouse was last taken away; all of them if it never was. -/
def sinceLoss (events : List WindowEvent) : List WindowEvent := events.rtakeWhile (· ≠ .captureLost)

variable {events : List WindowEvent} {b : MouseButton}

theorem sinceLoss_concat (events : List WindowEvent) (e : WindowEvent) :
    sinceLoss (events ++ [e]) = if e = .captureLost then [] else sinceLoss events ++ [e] := by
  unfold sinceLoss
  rw [List.rtakeWhile_concat]
  simp only [decide_not, Bool.not_eq_true', decide_eq_false_iff_not, ite_not]

theorem strokes_concat (events : List WindowEvent) (e : WindowEvent) :
    strokes (events ++ [e]) = strokes events ++ e.stroke?.toList := by
  unfold strokes
  rw [List.filterMap_append]
  cases h : e.stroke? <;> simp [h]

theorem strokesOf_concat (b : MouseButton) (events : List WindowEvent) (e : WindowEvent) :
    strokesOf b (events ++ [e]) = strokesOf b events ++ (e.strokeOf? b).toList := by
  unfold strokesOf
  rw [List.filterMap_append]
  cases h : e.strokeOf? b <;> simp [h]

theorem isDown_concat (b : MouseButton) (events : List WindowEvent) (e : WindowEvent) :
    isDown b (events ++ [e]) = (e.strokeOf? b).getD (isDown b events) := by
  unfold isDown
  rw [strokesOf_concat]
  cases e.strokeOf? b <;> simp

/-- What a button did last it did since the mouse was taken away, if it did anything since. -/
theorem isDown_sinceLoss (h : strokesOf b (sinceLoss events) ≠ []) :
    isDown b (sinceLoss events) = isDown b events := by
  obtain ⟨earlier, hearlier⟩ : sinceLoss events <:+ events := List.rtakeWhile_suffix _ _
  have happend : strokesOf b events = strokesOf b earlier ++ strokesOf b (sinceLoss events) := by
    conv_lhs => rw [← hearlier]
    exact List.filterMap_append
  unfold isDown
  rw [happend, List.getLast?_append, List.getLast?_eq_some_getLast h]
  rfl

/-- A button that went down since the mouse was last taken away is down. -/
theorem isDown_of_sinceLoss (h : isDown b (sinceLoss events) = true) : isDown b events = true := by
  rw [← isDown_sinceLoss, h]
  intro hnone
  rw [isDown, hnone] at h
  cases h

/-- A stroke of an orderly button is not what the button did last. -/
theorem AreOrderly.concat {e : WindowEvent} (h : AreOrderly (events ++ [e])) :
    AreOrderly events ∧ ∀ b pressed, e.strokeOf? b = some pressed → isDown b events = !pressed := by
  refine ⟨fun b => ?_, fun b pressed hstroke => ?_⟩
  · have hchain := h b
    rw [strokesOf_concat, ← List.cons_append] at hchain
    exact (List.isChain_append.mp hchain).1
  · have hchain := h b
    rw [strokesOf_concat, hstroke, ← List.cons_append] at hchain
    have hne := (List.isChain_append.mp hchain).2.2 (isDown b events)
      (by simp [isDown, List.getLast?_cons]) pressed (by simp)
    revert hne
    cases isDown b events <;> cases pressed <;> simp

/-- What a press or a release does to the number of buttons that are down. -/
theorem countDown_concat (events : List WindowEvent) (b : MouseButton) (pressed : Bool) (x y : Int32) :
    countDown (events ++ [.button b pressed x y]) + (isDown b events).toNat =
      countDown events + pressed.toNat := by
  have hdown : ∀ b', isDown b' (events ++ [.button b pressed x y]) =
      if b = b' then pressed else isDown b' events := by
    intro b'
    rw [isDown_concat, strokeOf?]
    split <;> rfl
  unfold countDown
  simp only [List.countP_cons, List.countP_nil, hdown]
  cases b <;> cases pressed <;> cases isDown .left events <;> cases isDown .right events <;>
    cases isDown .middle events <;> decide

theorem eq_button_of_stroke? {e : WindowEvent} {pressed : Bool} (h : e.stroke? = some pressed) :
    ∃ b x y, e = .button b pressed x y := by
  cases e <;> simp_all [stroke?]

theorem strokeOf?_of_stroke? {e : WindowEvent} (h : e.stroke? = none) (b : MouseButton) :
    e.strokeOf? b = none := by
  cases e <;> simp_all [stroke?, strokeOf?]

/-- An event that is of no button leaves all of them as they are. -/
theorem countDown_concat_of_stroke? {e : WindowEvent} (h : e.stroke? = none) (events : List WindowEvent) :
    countDown (events ++ [e]) = countDown events := by
  unfold countDown
  simp only [isDown_concat, strokeOf?_of_stroke? h, Option.getD_none]

/-! ### Late releases -/

/-- Whether each button that comes up has gone down before. -/
def ReleasesOwn (events : List WindowEvent) : Prop := ∀ b, (strokesOf b events).head? ≠ some false

theorem ReleasesOwn.of_concat {e : WindowEvent} (h : ReleasesOwn (events ++ [e])) :
    ReleasesOwn events := by
  intro b hfirst
  apply h b
  rw [strokesOf_concat, List.head?_append, hfirst]
  rfl

/-- A button that comes up, having gone down before, is down. -/
theorem ReleasesOwn.strokesOf_ne_nil {x y : Int32} (h : ReleasesOwn (events ++ [.button b false x y])) :
    strokesOf b events ≠ [] := by
  intro hnone
  apply h b
  rw [strokesOf_concat, hnone]
  simp [strokeOf?]

/-- **The number is never too high.**  Since the mouse was last taken away, presses are ahead of releases
by no more than the buttons that are down, and by just as many if no button has come up that was down
before. -/
theorem level_le_countDown (h : AreOrderly events) :
    let recent := sinceLoss events
    level (strokes recent) ≤ countDown recent ∧
      (ReleasesOwn recent → level (strokes recent) = countDown recent) := by
  induction events using List.reverseRecOn with
  | nil => exact ⟨Nat.zero_le _, fun _ => rfl⟩
  | append_singleton events e ih =>
    obtain ⟨horderly, hturn⟩ := h.concat
    obtain ⟨hle, heq⟩ := ih horderly
    dsimp only
    rw [sinceLoss_concat]
    split
    · exact ⟨Nat.zero_le _, fun _ => rfl⟩
    · rw [strokes_concat]
      cases hstroke : e.stroke? with
      | none =>
        rw [Option.toList_none, List.append_nil, countDown_concat_of_stroke? hstroke]
        exact ⟨hle, fun hown => heq hown.of_concat⟩
      | some pressed =>
        obtain ⟨b, x, y, rfl⟩ := eq_button_of_stroke? hstroke
        have hcount := countDown_concat (sinceLoss events) b pressed x y
        have hdown : isDown b events = !pressed := hturn b pressed (by simp [strokeOf?])
        rw [Option.toList_some, level_concat]
        cases pressed with
        | true =>
          -- the button was up, so there is one more
          have hup : isDown b (sinceLoss events) = false := by
            rw [← Bool.not_eq_true]
            intro hbefore
            rw [isDown_of_sinceLoss hbefore] at hdown
            cases hdown
          rw [hup, Bool.toNat_false, Bool.toNat_true] at hcount
          rw [if_pos rfl]
          refine ⟨by omega, fun hown => ?_⟩
          have hsame := heq hown.of_concat
          omega
        | false =>
          rw [Bool.toNat_false] at hcount
          rw [if_neg Bool.false_ne_true]
          constructor
          · -- there is one less if the press came after the loss, and else as many
            have hone := (isDown b (sinceLoss events)).toNat_le
            omega
          · intro hown
            have hsame := heq hown.of_concat
            rw [isDown_sinceLoss hown.strokesOf_ne_nil, hdown, Bool.not_false, Bool.toNat_true] at hcount
            omega

/-- Some button is down exactly if there is one to be counted. -/
theorem countDown_pos_iff : 0 < countDown events ↔ ∃ b, isDown b events = true := by
  unfold countDown
  rw [List.countP_pos_iff]
  constructor
  · rintro ⟨b, -, hdown⟩
    exact ⟨b, hdown⟩
  · rintro ⟨b, hdown⟩
    exact ⟨b, by cases b <;> simp, hdown⟩

/-- There are three buttons. -/
theorem countDown_le (events : List WindowEvent) : countDown events ≤ 3 := List.countP_le_length

end WindowEvent

namespace Pointer

open WindowEvent

/-! ### What the pointer counts -/

/-- The pointer after some window events, each with its moment. -/
def followAll (t : Pointer) (events : List (WindowEvent × UInt64)) : Pointer :=
  events.foldl (fun t e => (t.follow e.1 e.2).2) t

/-- What a pointer knows after some events in a window that had a size before. -/
structure Knows (t : Pointer) (size : UInt32 × UInt32) (events : List WindowEvent) : Prop where
  size : (t.width, t.height) = (events.filterMap size?).getLast?.getD size
  last : (t.lastX, t.lastY) = (events.filterMap place?).getLast?.getD (0, 0)
  pressed : t.pressed.toNat = level (strokes (sinceLoss events))

variable {t : Pointer} {size : UInt32 × UInt32} {events : List WindowEvent}

/-- One more button is counted as long as the count is not at its end. -/
theorem toNat_pressed_press (h : t.pressed.toNat < 255) :
    t.press.pressed.toNat = t.pressed.toNat + 1 := by
  have hne : t.pressed ≠ 255 := by
    intro heq
    rw [heq] at h
    exact absurd h (by decide)
  have hone : (1 : UInt8).toNat = 1 := rfl
  change (if t.pressed = 255 then 255 else t.pressed + 1).toNat = _
  rw [if_neg hne, UInt8.toNat_add, hone]
  omega

theorem toNat_pressed_release (t : Pointer) : t.release.pressed.toNat = t.pressed.toNat - 1 := by
  change (if t.pressed = 0 then 0 else t.pressed - 1).toNat = _
  split
  · rename_i hzero
    rw [hzero]
    rfl
  · rename_i hne
    have hle : 1 ≤ t.pressed := by
      rw [UInt8.le_iff_toNat_le]
      rw [← UInt8.toNat_inj, UInt8.toNat_zero] at hne
      exact Nat.one_le_iff_ne_zero.mpr hne
    rw [UInt8.toNat_sub_of_le _ _ hle]
    rfl

/-- When the mouse is taken away, no button is counted any more. -/
theorem follow_captureLost (t : Pointer) (time : UInt64) :
    t.follow .captureLost time =
      (if 0 < t.pressed then some (t.event .cancel time) else none, { t with pressed := 0 }) := by
  unfold follow
  dsimp only
  split
  · rfl
  · rename_i hzero
    have heq : t.pressed = 0 := by
      rw [← UInt8.toNat_inj, UInt8.toNat_zero]
      rw [UInt8.lt_iff_toNat_lt, UInt8.toNat_zero] at hzero
      omega
    rw [← heq]

theorem size_follow (t : Pointer) (e : WindowEvent) (time : UInt64) :
    ((t.follow e time).2.width, (t.follow e time).2.height) = e.size?.getD (t.width, t.height) := by
  cases e with
  | button b pressed x y => cases pressed <;> rfl
  | captureLost =>
    rw [follow_captureLost]
    rfl
  | resize | move | wheel | minimized | close => rfl

theorem last_follow (t : Pointer) (e : WindowEvent) (time : UInt64) :
    ((t.follow e time).2.lastX, (t.follow e time).2.lastY) = e.place?.getD (t.lastX, t.lastY) := by
  cases e with
  | button b pressed x y => cases pressed <;> rfl
  | captureLost =>
    rw [follow_captureLost]
    rfl
  | resize | move | wheel | minimized | close => rfl

theorem pressed_follow_of_stroke? {e : WindowEvent} (h : e.stroke? = none) (hkept : e ≠ .captureLost)
    (t : Pointer) (time : UInt64) : (t.follow e time).2.pressed = t.pressed := by
  cases e with
  | button b pressed x y => cases h
  | captureLost => exact absurd rfl hkept
  | resize | move | wheel | minimized | close => rfl

/-- What is reported last is told by the new event, or else by the ones before it. -/
theorem getLast?_filterMap_concat {α : Type} (f : WindowEvent → Option α) (events : List WindowEvent)
    (e : WindowEvent) :
    ((events ++ [e]).filterMap f).getLast? = (f e).or (events.filterMap f).getLast? := by
  rw [List.filterMap_append, List.getLast?_append]
  cases h : f e <;> simp [h]

/-- **One event.**  The pointer goes on knowing the size and the place that were reported last, and how
far presses are ahead of releases, as long as there is room to count. -/
theorem Knows.follow (h : t.Knows size events) (hroom : level (strokes (sinceLoss events)) < 255)
    (e : WindowEvent) (time : UInt64) : (t.follow e time).2.Knows size (events ++ [e]) := by
  obtain ⟨hsize, hlast, hpressed⟩ := h
  refine ⟨?_, ?_, ?_⟩
  · rw [size_follow, hsize, getLast?_filterMap_concat]
    cases e.size? <;> rfl
  · rw [last_follow, hlast, getLast?_filterMap_concat]
    cases e.place? <;> rfl
  · rw [sinceLoss_concat]
    split
    · rename_i hlost
      rw [hlost, follow_captureLost]
      rfl
    · rename_i hkept
      rw [strokes_concat]
      cases hstroke : e.stroke? with
      | none =>
        rw [pressed_follow_of_stroke? hstroke hkept, Option.toList_none, List.append_nil, hpressed]
      | some pressed =>
        obtain ⟨b, x, y, rfl⟩ := eq_button_of_stroke? hstroke
        rw [Option.toList_some, level_concat, ← hpressed]
        cases pressed with
        | true => exact @toNat_pressed_press (t.seenAt x y) (hpressed.trans_lt hroom)
        | false => exact toNat_pressed_release (t.seenAt x y)

/-- **A whole run.**  As long as each button is pressed and released by turns, no more than three of them
are counted, and the pointer knows what was reported. -/
theorem knows_followAll (size : UInt32 × UInt32) {events : List (WindowEvent × UInt64)}
    (h : AreOrderly (events.map Prod.fst)) :
    (followAll { width := size.1, height := size.2 } events).Knows size (events.map Prod.fst) := by
  induction events using List.reverseRecOn with
  | nil => exact ⟨rfl, rfl, rfl⟩
  | append_singleton events e ih =>
    rw [List.map_append, List.map_singleton] at h ⊢
    have horderly := h.concat.1
    have hroom : level (strokes (sinceLoss (events.map Prod.fst))) < 255 := by
      have hle := (level_le_countDown horderly).1
      have hthree := countDown_le (sinceLoss (events.map Prod.fst))
      omega
    have hlast := (ih horderly).follow hroom e.1 e.2
    rw [followAll, List.foldl_append]
    exact hlast

/-! ### What is cancelled -/

/-- Whether in some last part of the events there were more presses than releases. -/
def Outweighs (events : List WindowEvent) : Prop :=
  ∃ last, last <:+ strokes events ∧ last.count false < last.count true

theorem outweighs_iff : Outweighs events ↔ 0 < level (strokes events) :=
  (@le_level_iff (strokes events) 1).symm

/-- Something was pressed at a place. -/
theorem Outweighs.exists_place (h : Outweighs (sinceLoss events)) :
    ∃ x y, (events.filterMap place?).getLast? = some (x, y) := by
  cases hlast : (events.filterMap place?).getLast? with
  | some place => exact ⟨place.1, place.2, rfl⟩
  | none =>
    rw [List.getLast?_eq_none_iff, List.filterMap_eq_nil_iff] at hlast
    have hnone : strokes (sinceLoss events) = [] := by
      refine List.filterMap_eq_nil_iff.mpr fun e he => ?_
      have hplace := hlast e ((List.rtakeWhile_suffix _ _).subset he)
      cases e <;> simp_all [stroke?, place?]
    rw [outweighs_iff, hnone] at h
    exact absurd h (Nat.lt_irrefl 0)

/-- **A lost capture cancels the gesture in progress, unless late releases outweigh it.**  Let a pointer
follow any events of a window in which each button is pressed and released by turns, and let the mouse be
taken away then.

* The gesture is cancelled exactly if lately, since the mouse was last taken away, there were more presses
  than releases.  The event is at the place that was reported last, within the size that was.
* In that case a button is down that went down since the mouse was last taken away: nothing is cancelled
  without a gesture.
* If no button has come up since that was down before, then the gesture is cancelled exactly if such a
  button is down. -/
theorem lost_capture_cancels_unless_outweighed (size : UInt32 × UInt32)
    {events : List (WindowEvent × UInt64)} (h : AreOrderly (events.map Prod.fst)) (time : UInt64) :
    let seen := events.map Prod.fst
    let recent := sinceLoss seen
    let answer :=
      ((followAll { width := size.1, height := size.2 } events).follow .captureLost time).1
    (Outweighs recent → ∃ x y width height, (seen.filterMap place?).getLast? = some (x, y) ∧
      (seen.filterMap size?).getLast?.getD size = (width, height) ∧
      answer = some (.atPixel .cancel (InputEvent.coordinate x) (InputEvent.coordinate y)
        width height time)) ∧
    (¬ Outweighs recent → answer = none) ∧
    (Outweighs recent → ∃ b, isDown b recent = true) ∧
    (ReleasesOwn recent → (Outweighs recent ↔ ∃ b, isDown b recent = true)) := by
  intro seen recent answer
  obtain ⟨hsize, hlast, hpressed⟩ := knows_followAll size h
  obtain ⟨hle, heq⟩ := level_le_countDown h
  have hcounted : 0 < (followAll { width := size.1, height := size.2 } events).pressed ↔
      Outweighs recent := by
    rw [UInt8.lt_iff_toNat_lt, hpressed, UInt8.toNat_zero, outweighs_iff]
  have hanswer := congrArg Prod.fst
    (follow_captureLost (followAll { width := size.1, height := size.2 } events) time)
  refine ⟨fun hmore => ?_, fun hless => ?_, fun hmore => ?_, fun hown => ?_⟩
  · obtain ⟨x, y, hplace⟩ := hmore.exists_place
    rw [hplace, Option.getD_some, Prod.mk.injEq] at hlast
    refine ⟨x, y, _, _, hplace, hsize.symm, ?_⟩
    refine hanswer.trans ((if_pos (hcounted.mpr hmore)).trans ?_)
    rw [event, hlast.1, hlast.2]
  · exact hanswer.trans (if_neg (mt hcounted.mp hless))
  · rw [← countDown_pos_iff]
    exact (outweighs_iff.mp hmore).trans_le hle
  · rw [outweighs_iff, heq hown, countDown_pos_iff]

/-- A button that comes up late, but before the next one goes down, does no harm: the gesture of the other
button is cancelled. -/
theorem lost_capture_cancels_after_late_release :
    let events : List (WindowEvent × UInt64) :=
      [(.resize 4 4, 0), (.button .left true 1 1, 1), (.captureLost, 2), (.button .left false 2 2, 3),
        (.button .right true 3 3, 4)]
    ((followAll {} events).follow .captureLost 5).1 =
      some (.atPixel .cancel (InputEvent.coordinate 3) (InputEvent.coordinate 3) 4 4 5) := by
  intro events
  have horderly : AreOrderly (events.map Prod.fst) := by
    intro b
    cases b <;> decide
  obtain ⟨hcancel, -⟩ := lost_capture_cancels_unless_outweighed (0, 0) horderly 5
  obtain ⟨x, y, width, height, hplace, hsize, hanswer⟩ :=
    hcancel ⟨[true], ⟨[false], rfl⟩, by decide⟩
  cases hplace
  cases hsize
  exact hanswer

/-- A button that comes up late can hide another one that is down: its release is taken off, and the
gesture of the other button is not cancelled. -/
theorem not_lost_capture_cancels_gesture :
    ¬ ∀ (size : UInt32 × UInt32) (events : List (WindowEvent × UInt64)) (time : UInt64),
      AreOrderly (events.map Prod.fst) →
      (((followAll { width := size.1, height := size.2 } events).follow .captureLost time).1.isSome ↔
        ∃ b, isDown b (sinceLoss (events.map Prod.fst)) = true) := by
  intro h
  have hiff := h (4, 4) [(.button .left true 1 1, 0), (.captureLost, 1), (.button .right true 2 2, 2),
    (.button .left false 3 3, 3)] 4 (by intro b; cases b <;> decide)
  have hdown : isDown .right (sinceLoss [.button .left true 1 1, .captureLost, .button .right true 2 2,
    .button .left false 3 3]) = true := by decide
  have hcancelled := hiff.mpr ⟨.right, hdown⟩
  cases hcancelled

end Pointer

end DeskView
