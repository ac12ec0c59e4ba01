import DeskView.Engine.Slot

/-!
# The engine of a process is set once

A slot is used in three ways: an engine is offered, the engine is asked for, and it is asked whether there
is one (`Slot.Use`).  What is in the slot depends on the offers alone: it is the first engine whose
initialisation succeeded (`Slot.engine?_after`).

So a sequence of uses has two parts.  Up to the first success every engine that is offered is asked to
initialise itself and the slot stays empty; after it no engine is asked any more and the slot keeps the one
it has (`Slot.engine_is_set_once`).
-/

namespace DeskView.Engine.Slot

variable {E : Type}

/-! ### Uses -/

/-- Something that is done with the slot. -/
inductive Use (E : Type) where
  /-- An engine is offered whose initialisation answers `init`. -/
  | install (engine : E) (init : Except EngineError Unit)
  /-- The engine is asked for. -/
  | get
  /-- It is asked whether there is an engine. -/
  | isInstalled

/-- What a use answers. -/
inductive Answer (E : Type) where
  /-- An engine, or why there is none. -/
  | engine (result : Except EngineError E)
  /-- Whether there is an engine. -/
  | installed (value : Bool)

/-- What a use comes to: the answer, the slot afterwards, and the engines that were asked to initialise
themselves. -/
structure Response (E : Type) where
  answer : Answer E
  slot : Slot E
  asked : List E

/-- One use. -/
def use (s : Slot E) : Use E → Response E
  | .install engine init =>
    let done := s.install engine init
    ⟨.engine done.result, done.slot, if done.asked then [engine] else []⟩
  | .get => ⟨.engine s.get, s, []⟩
  | .isInstalled => ⟨.installed s.isInstalled, s, []⟩

/-- The uses, one after the other. -/
def respond (s : Slot E) : List (Use E) → List (Response E)
  | [] => []
  | u :: rest => s.use u :: (s.use u).slot.respond rest

/-- The slot after some uses. -/
def after (s : Slot E) (uses : List (Use E)) : Slot E := uses.foldl (fun s u => (s.use u).slot) s

/-! ### Offers -/

/-- The engine that is offered and what its initialisation answers, if the use is an offer. -/
def Use.offer? : Use E → Option (E × Except EngineError Unit)
  | .install engine init => some (engine, init)
  | .get => none
  | .isInstalled => none

/-- The offers among some uses. -/
def offers (uses : List (Use E)) : List (E × Except EngineError Unit) := uses.filterMap Use.offer?

/-- The offers up to the first that succeeds, that one included; all of them if none does. -/
def upToSuccess (offers : List (E × Except EngineError Unit)) : List (E × Except EngineError Unit) :=
  offers.take (offers.findIdx (·.2.isOk) + 1)

/-- The first engine that was offered and whose initialisation succeeded. -/
def chosen? (uses : List (Use E)) : Option E := ((offers uses).find? (·.2.isOk)).map Prod.fst

/-! ### One use after the other -/

theorem length_respond (s : Slot E) (uses : List (Use E)) : (s.respond uses).length = uses.length := by
  induction uses generalizing s with
  | nil => rfl
  | cons u rest ih => exact congrArg (· + 1) (ih _)

theorem respond_append (s : Slot E) (xs ys : List (Use E)) :
    s.respond (xs ++ ys) = s.respond xs ++ (s.after xs).respond ys := by
  induction xs generalizing s with
  | nil => rfl
  | cons u rest ih => exact congrArg (s.use u :: ·) (ih _)

/-- A slot with an engine keeps it, and asks no other one. -/
theorem use_of_some {s : Slot E} {first : E} (h : s.engine? = some first) (u : Use E) :
    (s.use u).slot = s ∧ (s.use u).asked = [] := by
  cases u with
  | install engine init =>
    unfold use install
    rw [h]
    exact ⟨rfl, rfl⟩
  | get => exact ⟨rfl, rfl⟩
  | isInstalled => exact ⟨rfl, rfl⟩

/-- **One use.**  A use fills the slot only with an engine that is offered and succeeds, and only if the
slot is empty. -/
theorem engine?_use (s : Slot E) (u : Use E) :
    (s.use u).slot.engine? = s.engine?.or (chosen? [u]) := by
  cases h : s.engine? with
  | some first =>
    rw [(use_of_some h u).1, h]
    rfl
  | none =>
    cases u with
    | install engine init =>
      unfold use install
      rw [h]
      cases init with
      | error e => exact h
      | ok success => rfl
    | get => exact h
    | isInstalled => exact h

theorem chosen?_cons (u : Use E) (rest : List (Use E)) :
    chosen? (u :: rest) = (chosen? [u]).or (chosen? rest) := by
  unfold chosen? offers
  cases hoffer : u.offer? with
  | none => simp [hoffer]
  | some offer =>
    cases hok : offer.2.isOk <;> simp [hoffer, hok]

/-- **A whole run.**  What is in the slot is the first engine that was offered and succeeded. -/
theorem engine?_after (s : Slot E) (uses : List (Use E)) :
    (s.after uses).engine? = s.engine?.or (chosen? uses) := by
  induction uses generalizing s with
  | nil => exact (Option.or_none).symm
  | cons u rest ih =>
    calc (s.after (u :: rest)).engine?
        = (s.use u).slot.engine?.or (chosen? rest) := ih _
      _ = (s.engine?.or (chosen? [u])).or (chosen? rest) := by rw [engine?_use]
      _ = s.engine?.or (chosen? (u :: rest)) := by rw [Option.or_assoc, ← chosen?_cons]

/-- Once there is an engine, no other one is asked. -/
theorem asked_of_some {s : Slot E} {first : E} (h : s.engine? = some first) (uses : List (Use E)) :
    (s.respond uses).flatMap (·.asked) = [] := by
  induction uses with
  | nil => rfl
  | cons u rest ih =>
    obtain ⟨hslot, hasked⟩ := use_of_some h u
    rw [respond, hslot, List.flatMap_cons, hasked, ih]
    rfl

/-- Until there is an engine, each one that is offered is asked. -/
theorem asked_of_none {s : Slot E} (h : s.engine? = none) (uses : List (Use E)) :
    (s.respond uses).flatMap (·.asked) = (upToSuccess (offers uses)).map Prod.fst := by
  induction uses generalizing s with
  | nil => rfl
  | cons u rest ih =>
    rw [respond, List.flatMap_cons]
    cases u with
    | install engine init =>
      cases init with
      | error e =>
        have hkept : s.use (.install engine (.error e)) = ⟨.engine (.error e), s, [engine]⟩ := by
          unfold use install
          rw [h]
          rfl
        rw [hkept, ih h]
        simp [upToSuccess, offers, Use.offer?, List.findIdx_cons, Except.isOk, Except.toBool]
      | ok success =>
        have hfilled : s.use (.install engine (.ok success)) =
            ⟨.engine (.ok engine), ⟨some engine⟩, [engine]⟩ := by
          unfold use install
          rw [h]
          rfl
        rw [hfilled, @asked_of_some E ⟨some engine⟩ engine rfl rest]
        simp [upToSuccess, offers, Use.offer?, List.findIdx_cons, Except.isOk, Except.toBool]
    | get => exact ih h
    | isInstalled => exact ih h

/-- **The engine of a process is set once.**  Let anything be done with an empty slot.

* The engines that are asked to initialise themselves are those that are offered up to the first that
  succeeds, that one included, each once and in order.
* Before that one each offer answers the error of its own engine and leaves the slot empty.  To ask for the
  engine then answers that there is none.
* The first success answers its engine.  After it the slot holds just that engine, and every other offer is
  refused. -/
theorem engine_is_set_once (uses : List (Use E)) :
    let responses := ({} : Slot E).respond uses
    responses.flatMap (·.asked) = (upToSuccess (offers uses)).map Prod.fst ∧
    ∀ earlier u later, uses = earlier ++ u :: later →
      ∃ r, responses[earlier.length]? = some r ∧
        (chosen? earlier = none →
          (∀ engine e, u = .install engine (.error e) → r = ⟨.engine (.error e), {}, [engine]⟩) ∧
          (∀ engine, u = .install engine (.ok ()) → r = ⟨.engine (.ok engine), ⟨some engine⟩, [engine]⟩) ∧
          (u = .get → r = ⟨.engine (.error .notInitialized), {}, []⟩) ∧
          (u = .isInstalled → r = ⟨.installed false, {}, []⟩)) ∧
        ∀ first, chosen? earlier = some first →
          (∀ engine init, u = .install engine init →
            r = ⟨.engine (.error .alreadyInitialized), ⟨some first⟩, []⟩) ∧
          (u = .get → r = ⟨.engine (.ok first), ⟨some first⟩, []⟩) ∧
          (u = .isInstalled → r = ⟨.installed true, ⟨some first⟩, []⟩) := by
  intro responses
  refine ⟨asked_of_none rfl uses, ?_⟩
  rintro earlier u later rfl
  have hslot : ({} : Slot E).after earlier = ⟨chosen? earlier⟩ :=
    congrArg Slot.mk ((engine?_after {} earlier).trans Option.none_or)
  refine ⟨(⟨chosen? earlier⟩ : Slot E).use u, ?_, fun hnone => ?_, fun first hfirst => ?_⟩
  · change (respond {} (earlier ++ u :: later))[earlier.length]? = _
    rw [respond_append, hslot, ← length_respond {} earlier,
      List.getElem?_append_right (Nat.le_refl _), Nat.sub_self]
    rfl
  · rw [hnone]
    refine ⟨?_, ?_, ?_, ?_⟩
    · rintro engine e rfl
      rfl
    · rintro engine rfl
      rfl
    · rintro rfl
      rfl
    · rintro rfl
      rfl
  · rw [hfirst]
    refine ⟨?_, ?_, ?_⟩
    · rintro engine init rfl
      rfl
    · rintro rfl
      rfl
    · rintro rfl
      rfl

end DeskView.Engine.Slot
