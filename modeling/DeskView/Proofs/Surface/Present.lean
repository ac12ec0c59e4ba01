import DeskView.Surface.Basic

/-!
# One frame on the surface

`Drawable.transact_cases` lists how far a transaction can get: it makes the calls of a prefix of
begin, draw, commit, each only after the one before it succeeded.  `Surface.mem_calls_present` reads
off which calls a presented frame makes: they go to the bound target, and a draw is handed the whole
of just that frame.
-/

namespace DeskView

variable {T : Type} [Drawable T]

namespace Drawable

/-- How far a transaction can get: `begin` fails, `draw` fails after it, or `commit` is reached and
gives the outcome. -/
theorem transact_cases (target : T) (image : Image) (place : UInt32 × UInt32 → Rect) :
    ((transact target image place).calls = [.begin] ∧
      (transact target image place).outcome ≠ .ok ()) ∨
    (∃ canvas, (begin target).1 = .ok canvas ∧
      (transact target image place).calls =
        [.begin, .draw image (.sized image.width image.height) (place canvas)] ∧
      (transact target image place).outcome ≠ .ok ()) ∨
    (∃ canvas, (begin target).1 = .ok canvas ∧
      (transact target image place).calls =
        [.begin, .draw image (.sized image.width image.height) (place canvas), .commit]) := by
  unfold transact
  rcases hbegin : begin target with ⟨canvas | e | _, begun⟩
  · dsimp only
    rcases hdraw : draw begun image (.sized image.width image.height) (place canvas) with
      ⟨u | e | _, drawn⟩
    · exact .inr (.inr ⟨canvas, rfl, rfl⟩)
    · exact .inr (.inl ⟨canvas, rfl, rfl, by simp⟩)
    · exact .inr (.inl ⟨canvas, rfl, rfl, by simp⟩)
  · exact .inl ⟨rfl, by simp⟩
  · exact .inl ⟨rfl, by simp⟩

/-- Every draw of a transaction draws the whole of its image. -/
theorem eq_of_draw_mem_calls {target : T} {image image' : Image} {place : UInt32 × UInt32 → Rect}
    {src dst : Rect} (h : .draw image' src dst ∈ (transact target image place).calls) :
    image' = image ∧ src = .sized image.width image.height ∧
      ∃ canvas, (begin target).1 = .ok canvas ∧ dst = place canvas := by
  rcases transact_cases target image place with ⟨hcalls, -⟩ | ⟨canvas, hbegin, hcalls, -⟩ |
    ⟨canvas, hbegin, hcalls⟩ <;> rw [hcalls] at h
  · simp at h
  · simp only [List.mem_cons, reduceCtorEq, TargetCall.draw.injEq, List.not_mem_nil, or_false,
      false_or] at h
    exact ⟨h.1, h.2.1, canvas, hbegin, h.2.2⟩
  · simp only [List.mem_cons, reduceCtorEq, TargetCall.draw.injEq, List.not_mem_nil, or_false,
      false_or] at h
    exact ⟨h.1, h.2.1, canvas, hbegin, h.2.2⟩

end Drawable

namespace Surface

omit [Drawable T] in
theorem bound?_eq_some_iff {s : Surface T} {id : Nat} {target : T} :
    s.bound? = some (id, target) ↔ s.handle = some id ∧ s.targets[id]? = some target := by
  unfold bound?
  cases hhandle : s.handle with
  | none => simp
  | some id' =>
    simp only [Option.map_eq_some_iff, Prod.mk.injEq, Option.some.injEq]
    constructor
    · rintro ⟨target', htarget, rfl, rfl⟩
      exact ⟨rfl, htarget⟩
    · rintro ⟨rfl, htarget⟩
      exact ⟨target, htarget, rfl, rfl⟩

/-- What becomes of a frame: it is dropped because nothing is bound, or there is one transaction on
the bound target. -/
theorem present_cases (s : Surface T) (image : Image) :
    ((s.valid = false ∨ s.bound? = none) ∧ s.present image = ⟨.ok .dropped, s, []⟩) ∨
    (∃ id target, s.valid = true ∧ s.bound? = some (id, target) ∧
      (s.present image).surface =
        { s with
          targets := s.targets.setIfInBounds id
            (Drawable.transact target image (s.place image)).target } ∧
      (s.present image).calls =
        (Drawable.transact target image (s.place image)).calls.map (fun call => (id, call)) ∧
      ((s.present image).outcome = .ok .drawn ↔
        (Drawable.transact target image (s.place image)).outcome = .ok ())) := by
  unfold present
  by_cases hvalid : s.valid = true
  · rw [if_neg (by simp [hvalid])]
    cases hbound : s.bound? with
    | none => exact .inl ⟨.inr rfl, rfl⟩
    | some bound =>
      obtain ⟨id, target⟩ := bound
      refine .inr ⟨id, target, hvalid, rfl, ?_⟩
      dsimp only
      cases houtcome : (Drawable.transact target image (s.place image)).outcome with
      | ok u => exact ⟨rfl, rfl, by simp⟩
      | error e => exact ⟨rfl, rfl, by simp⟩
      | panic => exact ⟨rfl, rfl, by simp⟩
  · rw [Bool.not_eq_true] at hvalid
    exact .inl ⟨.inl hvalid, by rw [if_pos (by simp [hvalid])]⟩

/-- A presented frame makes calls on the bound target only, and draws just that frame. -/
theorem mem_calls_present {s : Surface T} {image : Image} {id : Nat} {call : TargetCall}
    (h : (id, call) ∈ (s.present image).calls) :
    s.handle = some id ∧
      ∀ image' src dst, call = .draw image' src dst →
        image' = image ∧ src = .sized image.width image.height := by
  rcases present_cases s image with ⟨-, hp⟩ | ⟨bound, target, -, hbound, -, hcalls, -⟩
  · rw [hp] at h
    simp at h
  · rw [hcalls, List.mem_map] at h
    obtain ⟨call', hmem, heq⟩ := h
    cases heq
    constructor
    · exact (bound?_eq_some_iff.mp hbound).1
    · rintro image' src dst rfl
      obtain ⟨himage, hsrc, -⟩ := Drawable.eq_of_draw_mem_calls hmem
      exact ⟨himage, hsrc⟩

end Surface

end DeskView
