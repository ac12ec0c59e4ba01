import DeskView.Proofs.Frame.Room
import DeskView.Proofs.Pump.Pulls
import DeskView.Proofs.Surface.Transactions

/-!
# A tick ends at its first failing stage

A tick asks for size, width and height, makes room, fetches, stages and presents, in this order.  What it
comes to can be told from the engine's answers alone up to the moment when the frame is handed to the
surface: `Engine.Answers.Offers` says when there is a frame to fetch, `Engine.Answers.FailsWith` with which
error a tick fails by itself.  Staging is not among these stages, since of a sound frame buffer it cannot
fail.

`Pump.tick_stages` lists how a tick can end, stage by stage, and `tick_ends_at_first_failure` reads off
which calls are made, which error is whose, and what is left alone.
-/

namespace DeskView

/-! ### What the engine answers -/

namespace Reported

/-- All three words are positive: there is a frame. -/
def IsPositive (r : Reported) : Prop := 0 < r.size ∧ 0 < r.width ∧ 0 < r.height

/-- The bytes that a frame of the reported width and height needs. -/
def byteLength (r : Reported) (format : PixelFormat) : Int :=
  r.width.toInt * r.height.toInt * format.bytesPerPixel

/-- A reported geometry is what was reported, and the bytes that it needs can be counted in a word. -/
theorem geometry?_spec {r : Reported} {g : Geometry} (h : r.geometry? = some g) (format : PixelFormat) :
    r.IsPositive ∧ (g.size : Int) = r.size.toInt ∧
      (Image.byteLength g.width g.height format : Int) = r.byteLength format ∧
      Image.byteLength g.width g.height format < 2 ^ 64 := by
  obtain ⟨hpositive, hsize, hwidth, hheight⟩ := geometry?_eq_some_iff.mp h
  refine ⟨hpositive, hsize, ?_, ?_⟩
  · unfold Image.byteLength byteLength
    push_cast
    rw [hwidth, hheight]
  · have hw : g.width.toNat ≤ 2 ^ 31 - 1 := by
      have hmax := r.width.toInt_lt
      omega
    have hh : g.height.toNat ≤ 2 ^ 31 - 1 := by
      have hmax := r.height.toInt_lt
      omega
    have hpixel : format.bytesPerPixel ≤ 4 := by cases format <;> decide
    calc g.width.toNat * g.height.toNat * format.bytesPerPixel
        ≤ (2 ^ 31 - 1) * (2 ^ 31 - 1) * 4 := Nat.mul_le_mul (Nat.mul_le_mul hw hh) hpixel
      _ < 2 ^ 64 := by decide

theorem not_isPositive_of_geometry? {r : Reported} (h : r.geometry? = none) : ¬ r.IsPositive := by
  intro hpositive
  have hsome : r.geometry? = some _ := if_pos hpositive
  rw [hsome] at h
  cases h

end Reported

namespace Engine.Answers

/-- The questions about the frame are all answered, with these words. -/
structure Reports (a : Answers) (r : Reported) : Prop where
  size : a.size = .ok r.size
  width : a.width = .ok r.width
  height : a.height = .ok r.height

/-- The error of the first question that fails, if one does. -/
def queryError? (a : Answers) : Option EngineError :=
  [a.size, a.width, a.height].findSome? fun answer =>
    match answer with
    | .ok _ => none
    | .error e => some e

/-- A frame is reported that has the bytes which its width and height need. -/
structure Offers (a : Answers) (format : PixelFormat) (r : Reported) : Prop where
  reports : a.Reports r
  positive : r.IsPositive
  room : r.byteLength format ≤ r.size.toInt

/-- The errors with which a tick fails by itself: a question or the fetch fails, and if the engine is
missing the link to it is lost; or the frame has fewer bytes than it needs. -/
inductive FailsWith (a : Answers) (format : PixelFormat) : FrameError → Prop
  | lostAsking {e : EngineError} (failed : a.queryError? = some e) (missing : e.isLinkMissing = true) :
      FailsWith a format (.linkLost e)
  | query {e : EngineError} (failed : a.queryError? = some e) (there : e.isLinkMissing = false) :
      FailsWith a format (.query e)
  | refused {r : Reported} (reports : a.Reports r) (positive : r.IsPositive)
      (short : r.size.toInt < r.byteLength format) :
      FailsWith a format (.tooShort (r.byteLength format).toNat r.size.toInt.toNat)
  | lostFetching {r : Reported} {e : EngineError} (offers : a.Offers format r)
      (failed : a.fetch.outcome = .error e) (missing : e.isLinkMissing = true) :
      FailsWith a format (.linkLost e)
  | fetch {r : Reported} {e : EngineError} (offers : a.Offers format r)
      (failed : a.fetch.outcome = .error e) (there : e.isLinkMissing = false) :
      FailsWith a format (.fetch e)

variable {a : Answers} {format : PixelFormat} {r r' : Reported} {e : EngineError}

theorem Reports.unique (h : a.Reports r) (h' : a.Reports r') : r = r' := by
  have hsize : r.size = r'.size := Except.ok.inj (h.size.symm.trans h'.size)
  have hwidth : r.width = r'.width := Except.ok.inj (h.width.symm.trans h'.width)
  have hheight : r.height = r'.height := Except.ok.inj (h.height.symm.trans h'.height)
  cases r
  cases r'
  subst hsize hwidth hheight
  rfl

/-- If all questions are answered, none of them failed. -/
theorem Reports.queryError?_ne_some (h : a.Reports r) (e : EngineError) : a.queryError? ≠ some e := by
  unfold queryError?
  rw [h.size, h.width, h.height]
  simp

theorem reports_of_query {id : String} (h : (a.query id).result = .ok r) : a.Reports r := by
  obtain ⟨hsize, hwidth, hheight⟩ := query_eq_ok_iff.mp h
  exact ⟨hsize, hwidth, hheight⟩

/-- The questions end with the first error. -/
theorem queryError?_of_query {id : String} (h : (a.query id).result = .error e) :
    a.queryError? = some e := by
  obtain ⟨size, width, height, fetch⟩ := a
  cases size <;> cases width <;> cases height <;> simp_all [query, queryError?]

/-- An error of the questions is the answer to one of them. -/
theorem failed_of_queryError? (h : a.queryError? = some e) :
    a.size = .error e ∨ a.width = .error e ∨ a.height = .error e := by
  obtain ⟨size, width, height, fetch⟩ := a
  cases size <;> cases width <;> cases height <;> simp_all [queryError?]

/-- The questions are asked in order, and each only if the ones before it were answered. -/
theorem calls_query_spec (a : Answers) (id : String) :
    (a.query id).calls <+: [.size id, .width id, .height id] ∧
    .size id ∈ (a.query id).calls ∧
    (.width id ∈ (a.query id).calls ↔ ∃ size, a.size = .ok size) ∧
    (.height id ∈ (a.query id).calls ↔
      (∃ size, a.size = .ok size) ∧ ∃ width, a.width = .ok width) := by
  obtain ⟨size, width, height, fetch⟩ := a
  cases size <;> cases width <;> cases height <;> simp [query]

/-! ### When there is nothing to fetch -/

theorem not_offers_of_queryError (h : a.queryError? = some e) (r : Reported) : ¬ a.Offers format r := by
  intro hr
  exact hr.reports.queryError?_ne_some e h

theorem not_offers_of_not_positive (h : a.Reports r) (hr : ¬ r.IsPositive) (r' : Reported) :
    ¬ a.Offers format r' :=
  fun hr' => hr (h.unique hr'.reports ▸ hr'.positive)

theorem not_offers_of_short (h : a.Reports r) (hshort : r.size.toInt < r.byteLength format)
    (r' : Reported) : ¬ a.Offers format r' := by
  intro hr'
  have hroom := hr'.room
  rw [← h.unique hr'.reports] at hroom
  omega

/-! ### With which error a tick fails by itself -/

/-- The three places where a tick fails by itself: the questions, the frame that is too short, and the
fetch. -/
theorem failsWith_iff {x : FrameError} :
    a.FailsWith format x ↔
      (∃ e, a.queryError? = some e ∧ x = .ofQuery e) ∨
      (∃ r, a.Reports r ∧ r.IsPositive ∧ r.size.toInt < r.byteLength format ∧
        x = .tooShort (r.byteLength format).toNat r.size.toInt.toNat) ∨
      ∃ r e, a.Offers format r ∧ a.fetch.outcome = .error e ∧ x = .ofFetch e := by
  unfold FrameError.ofQuery FrameError.ofFetch
  constructor
  · intro hx
    cases hx with
    | lostAsking failed missing => exact .inl ⟨_, failed, by rw [if_pos missing]⟩
    | query failed there => exact .inl ⟨_, failed, by rw [if_neg (by simp [there])]⟩
    | refused reports positive short => exact .inr (.inl ⟨_, reports, positive, short, rfl⟩)
    | lostFetching offers failed missing =>
      exact .inr (.inr ⟨_, _, offers, failed, by rw [if_pos missing]⟩)
    | fetch offers failed there =>
      exact .inr (.inr ⟨_, _, offers, failed, by rw [if_neg (by simp [there])]⟩)
  · rintro (⟨e, hfailed, rfl⟩ | ⟨r, hreports, hpositive, hshort, rfl⟩ | ⟨r, e, hoffers, hfailed, rfl⟩)
    · split
      · rename_i hmissing
        exact .lostAsking hfailed hmissing
      · rename_i hthere
        exact .query hfailed (by simpa using hthere)
    · exact .refused hreports hpositive hshort
    · split
      · rename_i hmissing
        exact .lostFetching hoffers hfailed hmissing
      · rename_i hthere
        exact .fetch hoffers hfailed (by simpa using hthere)

theorem failsWith_iff_of_queryError {x : FrameError} (h : a.queryError? = some e) :
    a.FailsWith format x ↔ x = .ofQuery e := by
  rw [failsWith_iff]
  constructor
  · rintro (⟨e', hfailed, rfl⟩ | ⟨r, hreports, -⟩ | ⟨r, e', hoffers, -⟩)
    · rw [Option.some.inj (h.symm.trans hfailed)]
    · exact absurd h (hreports.queryError?_ne_some e)
    · exact absurd hoffers (not_offers_of_queryError h r)
  · intro hx
    exact .inl ⟨e, h, hx⟩

theorem not_failsWith_of_not_positive {x : FrameError} (h : a.Reports r) (hr : ¬ r.IsPositive) :
    ¬ a.FailsWith format x := by
  rw [failsWith_iff]
  rintro (⟨e, hfailed, -⟩ | ⟨r', hreports, hpositive, -⟩ | ⟨r', e, hoffers, -⟩)
  · exact h.queryError?_ne_some e hfailed
  · exact hr (h.unique hreports ▸ hpositive)
  · exact not_offers_of_not_positive h hr r' hoffers

theorem failsWith_iff_of_short {x : FrameError} (h : a.Reports r) (hr : r.IsPositive)
    (hshort : r.size.toInt < r.byteLength format) :
    a.FailsWith format x ↔ x = .tooShort (r.byteLength format).toNat r.size.toInt.toNat := by
  rw [failsWith_iff]
  constructor
  · rintro (⟨e, hfailed, -⟩ | ⟨r', hreports, -, -, rfl⟩ | ⟨r', e, hoffers, -⟩)
    · exact absurd hfailed (h.queryError?_ne_some e)
    · rw [h.unique hreports]
    · exact absurd hoffers (not_offers_of_short h hshort r')
  · intro hx
    exact .inr (.inl ⟨r, h, hr, hshort, hx⟩)

theorem failsWith_iff_of_offers {x : FrameError} (h : a.Offers format r) :
    a.FailsWith format x ↔ ∃ e, a.fetch.outcome = .error e ∧ x = .ofFetch e := by
  rw [failsWith_iff]
  constructor
  · rintro (⟨e, hfailed, -⟩ | ⟨r', hreports, -, hshort, -⟩ | ⟨r', e, -, hfailed, hx⟩)
    · exact absurd hfailed (h.reports.queryError?_ne_some e)
    · exact absurd h (not_offers_of_short hreports hshort r)
    · exact ⟨e, hfailed, hx⟩
  · rintro ⟨e, hfailed, hx⟩
    exact .inr (.inr ⟨r, e, h, hfailed, hx⟩)

end Engine.Answers

/-! ### What the surface answers -/

/-- What a call comes to whose answer is turned into another. -/
def Outcome.map {ε α β : Type} (f : α → β) : Outcome ε α → Outcome ε β
  | .ok value => .ok (f value)
  | .error e => .error e
  | .panic => .panic

namespace Outcome

variable {ε α β : Type} {f : α → β} {o : Outcome ε α}

theorem map_eq_error_iff {e : ε} : o.map f = .error e ↔ o.discard = .error e := by
  cases o <;> simp [map, discard]

theorem map_eq_panic_iff : o.map f = .panic ↔ o.discard = .panic := by
  cases o <;> simp [map, discard]

end Outcome

/-- What a tick comes to whose frame was presented. -/
def TickResult.ofPresentation : Presentation → TickResult
  | .drawn => .presented
  | .dropped => .dropped

namespace Surface

variable {T : Type} [Drawable T]

/-- These calls were made on the bound target, and the last of them was answered like this. -/
def Returned (s : Surface T) (made : List (Nat × TargetCall)) (answer : Outcome FrameError Unit) :
    Prop :=
  ∃ id target calls, s.bound? = some (id, target) ∧ made = calls.map (id, ·) ∧
    (Drawable.answers target calls).getLast? = some answer

theorem not_returned_nil (s : Surface T) (answer : Outcome FrameError Unit) : ¬ s.Returned [] answer := by
  rintro ⟨id, target, calls, -, hmade, hlast⟩
  have hcalls : calls = [] := by simpa using hmade.symm
  subst hcalls
  cases hlast

/-- A frame comes to something else than a success exactly if the bound target answered so. -/
theorem returned_present_iff (s : Surface T) (image : Image) {answer : Outcome FrameError Unit}
    (hanswer : answer ≠ .ok ()) :
    s.Returned (s.present image).calls answer ↔ (s.present image).outcome.discard = answer := by
  by_cases hshown : s.valid = true ∧ s.bound? ≠ none
  · obtain ⟨hvalid, hbound⟩ := hshown
    obtain ⟨⟨id, target⟩, hbound⟩ := Option.ne_none_iff_exists'.mp hbound
    obtain ⟨hcalls, -, houtcome, -⟩ := present_of_bound hvalid hbound image
    have hlast := (Drawable.obeyed_transact target image (s.place image)).1.getLast?_answers
    rw [hcalls, houtcome]
    constructor
    · rintro ⟨id', target', calls, hbound', hmade, hlast'⟩
      rw [hbound, Option.some.injEq, Prod.mk.injEq] at hbound'
      obtain ⟨rfl, rfl⟩ := hbound'
      have hsame : (Drawable.transact target image (s.place image)).calls = calls :=
        (List.map_inj_right fun _ _ h => (Prod.mk.inj h).2).mp hmade
      rw [← hsame, hlast] at hlast'
      exact Option.some.inj hlast'
    · intro hsame
      exact ⟨id, target, _, hbound, rfl, hlast.trans (congrArg some hsame)⟩
  · have hdropped : s.present image = ⟨.ok .dropped, s, []⟩ := by
      rcases present_cases s image with ⟨-, hp⟩ | ⟨id, target, hvalid, hbound, -⟩
      · exact hp
      · exact absurd ⟨hvalid, by simp [hbound]⟩ hshown
    rw [hdropped]
    constructor
    · intro hreturned
      exact absurd hreturned (s.not_returned_nil answer)
    · intro hok
      exact absurd hok.symm hanswer

end Surface

/-! ### How a tick ends -/

section

variable {T : Type}

/-- The tick came to this before its frame was handed to the surface: no target was called, and no frame
was counted. -/
structure Ticked.EndsUnseen (t : Ticked T) (p : Pump) (s : Surface T)
    (outcome : Outcome FrameError TickResult) : Prop where
  outcome : t.outcome = outcome
  surface : t.surface = s
  made : Effect.targetCalls t.effects = []
  frameCount : t.pump.frameCount = p.frameCount

/-- The tick came to what the surface made of this image. -/
structure Ticked.EndsShowing [Drawable T] (t : Ticked T) (p : Pump) (s : Surface T) (image : Image) :
    Prop where
  outcome : t.outcome = (s.present image).outcome.map .ofPresentation
  surface : t.surface = (s.present image).surface
  made : Effect.targetCalls t.effects = (s.present image).calls
  frameCount : t.pump.frameCount =
    p.frameCount + if t.outcome = .ok .presented then 1 else 0

variable [Drawable T] {t : Ticked T} {p : Pump} {s : Surface T}

theorem Ticked.EndsUnseen.not_returned {x : Outcome FrameError TickResult} (h : t.EndsUnseen p s x)
    (answer : Outcome FrameError Unit) : ¬ s.Returned (Effect.targetCalls t.effects) answer := by
  rw [h.made]
  exact s.not_returned_nil answer

theorem Ticked.EndsUnseen.outcome_eq_error_iff {x : FrameError} {e : FrameError}
    (h : t.EndsUnseen p s (.error x)) :
    t.outcome = .error e ↔ e = x ∨ s.Returned (Effect.targetCalls t.effects) (.error e) := by
  rw [or_iff_left (h.not_returned _), h.outcome, Outcome.error.injEq]
  exact eq_comm

/-- What is shown is drawn or dropped, if it does not fail. -/
theorem Ticked.EndsShowing.ne_notReady {image : Image} (h : t.EndsShowing p s image) :
    t.outcome ≠ .ok .notReady := by
  rw [h.outcome]
  cases (s.present image).outcome with
  | ok presentation => cases presentation <;> simp [Outcome.map, TickResult.ofPresentation]
  | error e => simp [Outcome.map]
  | panic => simp [Outcome.map]

theorem Ticked.EndsShowing.returned_iff {image : Image} (h : t.EndsShowing p s image)
    {answer : Outcome FrameError Unit} (hanswer : answer ≠ .ok ()) :
    s.Returned (Effect.targetCalls t.effects) answer ↔
      (s.present image).outcome.discard = answer := by
  rw [h.made]
  exact s.returned_present_iff image hanswer

end

namespace Pump

variable {T : Type}

theorem outcome_conclude (p : Pump) (done : Presented T) :
    (p.conclude done).outcome = done.outcome.map .ofPresentation := by
  unfold conclude
  split <;> (rename_i h; rw [h]; rfl)

/-! ### Before the fetch -/

/-- If there is no fetch, then a question failed, there is no frame, or the frame is refused. -/
theorem prepare_unready {p : Pump} {a : Engine.Answers} (h : (p.prepare a).verdict ≠ .ok .ready) :
    (∃ e, a.queryError? = some e ∧ (p.prepare a).verdict = .error (.ofQuery e)) ∨
    (∃ r, a.Reports r ∧ ¬ r.IsPositive ∧ (p.prepare a).verdict = .ok .idle) ∨
    (∃ r, a.Reports r ∧ r.IsPositive ∧ r.size.toInt < r.byteLength p.frames.format ∧
      (p.prepare a).verdict =
        .error (.tooShort (r.byteLength p.frames.format).toNat r.size.toInt.toNat)) := by
  rcases prepare_cases p a with ⟨e, hquery, hp⟩ | ⟨r, hquery, hgeometry, hp⟩ |
    ⟨r, g, e, hquery, hgeometry, hfit, hp⟩ | ⟨r, g, replaced, frames, -, -, -, hp⟩
  · exact .inl ⟨e, Engine.Answers.queryError?_of_query hquery, by rw [hp]⟩
  · exact .inr (.inl ⟨r, Engine.Answers.reports_of_query hquery,
      Reported.not_isPositive_of_geometry? hgeometry, by rw [hp]⟩)
  · obtain ⟨hpositive, hsize, hneeded, hword⟩ := Reported.geometry?_spec hgeometry p.frames.format
    obtain ⟨hshort, he⟩ := FrameBuffer.eq_tooShort_of_fit hfit
    -- the size and the number of bytes are counted as they were reported
    have hnamed : e = .tooShort (r.byteLength p.frames.format).toNat r.size.toInt.toNat := by
      rw [he, if_pos hword, ← hneeded, ← hsize]
      rfl
    exact .inr (.inr ⟨r, Engine.Answers.reports_of_query hquery, hpositive, by omega,
      by rw [hp, hnamed]⟩)
  · rw [hp] at h
    exact absurd rfl h

theorem not_offers_of_not_ready {p : Pump} {a : Engine.Answers}
    (h : (p.prepare a).verdict ≠ .ok .ready) (r : Reported) : ¬ a.Offers p.frames.format r := by
  rcases prepare_unready h with ⟨e, hfailed, -⟩ | ⟨r', hr, hnot, -⟩ | ⟨r', hr, -, hshort, -⟩
  · exact Engine.Answers.not_offers_of_queryError hfailed r
  · exact Engine.Answers.not_offers_of_not_positive hr hnot r
  · exact Engine.Answers.not_offers_of_short hr hshort r

/-- A frame that is offered is fetched. -/
theorem ready_of_offers {p : Pump} {a : Engine.Answers} {r : Reported}
    (h : a.Offers p.frames.format r) : (p.prepare a).verdict = .ok .ready := by
  by_contra hv
  exact not_offers_of_not_ready hv r h

/-! ### How a tick ends -/

section

variable [Drawable T]

/-- A tick that does not get to its fetch ends with a question that fails, without a frame, or with a frame
that is refused. -/
theorem tick_unfetched {p : Pump} {a : Engine.Answers} (s : Surface T)
    (h : (p.prepare a).verdict ≠ .ok .ready) :
    (∃ e, a.queryError? = some e ∧ (p.tick s a).EndsUnseen p s (.error (.ofQuery e))) ∨
    (∃ r, a.Reports r ∧ ¬ r.IsPositive ∧ (p.tick s a).EndsUnseen p s (.ok .notReady)) ∨
    (∃ r, a.Reports r ∧ r.IsPositive ∧ r.size.toInt < r.byteLength p.frames.format ∧
      (p.tick s a).EndsUnseen p s
        (.error (.tooShort (r.byteLength p.frames.format).toNat r.size.toInt.toNat))) := by
  obtain ⟨hsurface, hmade, -, hcount⟩ := tick_of_not_fetched (p := p) (a := a) s (.inl h)
  have hended : ∀ x, (p.prepare a).verdict = .error x → (p.tick s a).EndsUnseen p s (.error x) := by
    intro x hx
    refine ⟨?_, hsurface, hmade, hcount⟩
    unfold tick
    dsimp only
    rw [hx]
  rcases prepare_unready h with ⟨e, hfailed, hv⟩ | ⟨r, hr, hnot, hv⟩ | ⟨r, hr, hpositive, hshort, hv⟩
  · exact .inl ⟨e, hfailed, hended _ hv⟩
  · refine .inr (.inl ⟨r, hr, hnot, ?_, hsurface, hmade, hcount⟩)
    unfold tick
    dsimp only
    rw [hv]
  · exact .inr (.inr ⟨r, hr, hpositive, hshort, hended _ hv⟩)

/-- A tick that gets to its fetch ends with it if it fails or panics, and else with what the surface makes
of the frame. -/
theorem tick_fetched {p : Pump} (hb : p.frames.Sound) {a : Engine.Answers} (s : Surface T)
    (h : (p.prepare a).verdict = .ok .ready) :
    ∃ (r : Reported) (length : Nat), a.Offers p.frames.format r ∧ (length : Int) = r.size.toInt ∧
      Effect.engineCalls (p.tick s a).effects =
        [.size p.session, .width p.session, .height p.session, .fetch p.session p.display length] ∧
      ((∃ e, a.fetch.outcome = .error e ∧ (p.tick s a).EndsUnseen p s (.error (.ofFetch e))) ∨
      (a.fetch.outcome = .panic ∧ (p.tick s a).EndsUnseen p s .panic) ∨
      (a.fetch.outcome = .ok () ∧ ∃ image,
        image.IsFrame r p.frames.format (p.tick s a).pump.frames.bytes ∧
        (p.tick s a).EndsShowing p s image)) := by
  obtain ⟨r, g, replaced, frames, hquery, hgeometry, hfit, hpump, hcalls⟩ := prepare_of_ready h
  obtain ⟨hpositive, hgsize, hneeded, -⟩ := Reported.geometry?_spec hgeometry p.frames.format
  have hroom := (FrameBuffer.fit_eq_ok_iff.mp hfit).1
  have hsize : frames.bytes.size = g.size := (FrameBuffer.fit_spec hb hfit).2.2.2.1
  have hoffers : a.Offers p.frames.format r :=
    ⟨Engine.Answers.reports_of_query hquery, hpositive, by omega⟩
  refine ⟨r, frames.bytes.size, hoffers, by omega, (engineCalls_tick p s a).trans hcalls, ?_⟩
  have hfailed : a.fetch.outcome ≠ .ok () → ∀ x,
      ((p.prepare a).pump.deliver s a.fetch).outcome = x → (p.tick s a).EndsUnseen p s x := by
    intro hf x hx
    obtain ⟨hsurface, hmade, -, hcount⟩ := tick_of_not_fetched (p := p) (a := a) s (.inr hf)
    exact ⟨by rw [tick_of_ready s h]; exact hx, hsurface, hmade, hcount⟩
  rcases deliver_cases (p.prepare a).pump s a.fetch with ⟨e, hf, hd⟩ | ⟨hf, hd⟩ | ⟨hf, -⟩
  · exact .inl ⟨e, hf, hfailed (by simp [hf]) _ (by rw [hd])⟩
  · exact .inr (.inl ⟨hf, hfailed (by simp [hf]) _ (by rw [hd])⟩)
  · obtain ⟨r', g', buffer, staged, hquery', hgeometry', hbuffer, -, -, hbytes, -, htick⟩ :=
      tick_of_fetched s hb h hf
    obtain rfl : r = r' := Except.ok.inj (hquery.symm.trans hquery')
    obtain rfl : g = g' := Option.some.inj (hgeometry.symm.trans hgeometry')
    obtain ⟨-, -, hwidth, hheight⟩ := Reported.geometry?_eq_some_iff.mp hgeometry
    have hleft : (p.tick s a).pump.frames.bytes = a.fetch.paint buffer := by
      rw [htick]
      exact (congrArg FrameBuffer.bytes (frames_conclude _ _)).trans hbytes
    have hcomplete : Image.byteLength g.width g.height p.frames.format ≤
        (p.tick s a).pump.frames.bytes.size := by
      rw [hleft, Engine.Fetch.size_paint, hbuffer]
      exact hroom
    refine .inr (.inr ⟨hf, .ofFrame g.width g.height p.frames.format (a.fetch.paint buffer),
      ⟨hwidth, hheight, rfl, by rw [hleft]; rfl, hcomplete⟩, ?_, ?_, ?_, ?_⟩) <;> rw [htick]
    · exact outcome_conclude _ _
    · exact surface_conclude _ _
    · simp [targetCalls_prepare]
    · exact frameCount_conclude _ _

/-- **The ways in which a tick can end**, stage by stage: a question fails, there is no frame, the frame is
refused, or it is fetched, and then the fetch fails or panics, or its frame is handed to the surface. -/
theorem tick_stages {p : Pump} (hb : p.frames.Sound) (s : Surface T) (a : Engine.Answers) :
    let t := p.tick s a
    (Effect.engineCalls t.effects = (a.query p.session).calls ∧ t.pump.frames = p.frames ∧
      (∀ r, ¬ a.Offers p.frames.format r) ∧
      ((∃ e, a.queryError? = some e ∧ t.EndsUnseen p s (.error (.ofQuery e))) ∨
      (∃ r, a.Reports r ∧ ¬ r.IsPositive ∧ t.EndsUnseen p s (.ok .notReady)) ∨
      (∃ r, a.Reports r ∧ r.IsPositive ∧ r.size.toInt < r.byteLength p.frames.format ∧
        t.EndsUnseen p s
          (.error (.tooShort (r.byteLength p.frames.format).toNat r.size.toInt.toNat))))) ∨
    (∃ (r : Reported) (length : Nat), a.Offers p.frames.format r ∧ (length : Int) = r.size.toInt ∧
      Effect.engineCalls t.effects =
        [.size p.session, .width p.session, .height p.session,
          .fetch p.session p.display length] ∧
      ((∃ e, a.fetch.outcome = .error e ∧ t.EndsUnseen p s (.error (.ofFetch e))) ∨
      (a.fetch.outcome = .panic ∧ t.EndsUnseen p s .panic) ∨
      (a.fetch.outcome = .ok () ∧ ∃ image,
        image.IsFrame r p.frames.format t.pump.frames.bytes ∧ t.EndsShowing p s image))) := by
  intro t
  by_cases h : (p.prepare a).verdict = .ok .ready
  · exact .inr (tick_fetched hb s h)
  · obtain ⟨hpump, -, heffects, -⟩ := tick_of_not_ready s h
    refine .inl ⟨?_, ?_, not_offers_of_not_ready h, tick_unfetched s h⟩
    · rw [show t.effects = _ from heffects]
      exact (prepare_of_not_ready h).2
    · rw [show t.pump = _ from hpump]
      rfl

variable {p : Pump}

/-- The engine calls of a tick: each question is asked if the ones before were answered, and a frame is
fetched if one is offered. -/
theorem asked_tick (hb : p.frames.Sound) (s : Surface T) (a : Engine.Answers) :
    let asked := Effect.engineCalls (p.tick s a).effects
    (∃ length, asked <+: [.size p.session, .width p.session, .height p.session,
      .fetch p.session p.display length]) ∧
    .size p.session ∈ asked ∧
    (.width p.session ∈ asked ↔ ∃ size, a.size = .ok size) ∧
    (.height p.session ∈ asked ↔ (∃ size, a.size = .ok size) ∧ ∃ width, a.width = .ok width) ∧
    ∀ length : Nat, .fetch p.session p.display length ∈ asked ↔
      ∃ r, a.Offers p.frames.format r ∧ (length : Int) = r.size.toInt := by
  intro asked
  rcases tick_stages hb s a with ⟨hasked, -, hnone, -⟩ | ⟨r, length, hoffers, hlength, hasked, -⟩
  · obtain ⟨hfirst, hsize, hwidth, hheight⟩ := a.calls_query_spec p.session
    have hquestions : asked = (a.query p.session).calls := hasked
    rw [hquestions]
    refine ⟨⟨0, hfirst.trans ⟨[.fetch p.session p.display 0], rfl⟩⟩, hsize, hwidth, hheight, ?_⟩
    intro length
    constructor
    · intro hmem
      rcases Engine.Answers.mem_calls_query hmem with h | h | h <;> cases h
    · rintro ⟨r, hr, -⟩
      exact absurd hr (hnone r)
  · have hall : asked = _ := hasked
    have hsize : ∃ size, a.size = .ok size := ⟨_, hoffers.reports.size⟩
    have hwidth : ∃ width, a.width = .ok width := ⟨_, hoffers.reports.width⟩
    rw [hall]
    refine ⟨⟨length, List.prefix_rfl⟩, by simp, by simp [hsize], by simp [hsize, hwidth], ?_⟩
    intro length'
    constructor
    · intro hmem
      have hsame : length' = length := by simpa using hmem
      exact ⟨r, hoffers, by omega⟩
    · rintro ⟨r', hr', hlength'⟩
      obtain rfl := hoffers.reports.unique hr'.reports
      have hsame : length' = length := by omega
      simp [hsame]

/-- A tick is over before it touches the surface unless the frame that is offered is fetched. -/
theorem untouched_tick (hb : p.frames.Sound) (s : Surface T) {a : Engine.Answers}
    (h : ¬ ((∃ r, a.Offers p.frames.format r) ∧ a.fetch.outcome = .ok ())) :
    ∃ x, x ≠ .ok .presented ∧ (p.tick s a).EndsUnseen p s x := by
  rcases tick_stages hb s a with ⟨-, -, -, ⟨e, -, hend⟩ | ⟨r, -, -, hend⟩ | ⟨r, -, -, -, hend⟩⟩ |
    ⟨r, length, hoffers, -, -, ⟨e, -, hend⟩ | ⟨-, hend⟩ | ⟨hfetched, -⟩⟩
  · exact ⟨_, by simp, hend⟩
  · exact ⟨_, by simp, hend⟩
  · exact ⟨_, by simp, hend⟩
  · exact ⟨_, by simp, hend⟩
  · exact ⟨_, by simp, hend⟩
  · exact absurd ⟨⟨r, hoffers⟩, hfetched⟩ h

/-- Without an offer, the frame buffer is left as it was. -/
theorem frames_tick_of_not_offered (hb : p.frames.Sound) (s : Surface T) {a : Engine.Answers}
    (h : ¬ ∃ r, a.Offers p.frames.format r) : (p.tick s a).pump.frames = p.frames := by
  rcases tick_stages hb s a with ⟨-, hframes, -⟩ | ⟨r, length, hoffers, -⟩
  · exact hframes
  · exact absurd ⟨r, hoffers⟩ h

/-- A frame that is offered and fetched is shown, for whatever the surface makes of it. -/
theorem shown_tick (hb : p.frames.Sound) (s : Surface T) {a : Engine.Answers} {r : Reported}
    (hr : a.Offers p.frames.format r) (hf : a.fetch.outcome = .ok ()) :
    ∃ image, image.IsFrame r p.frames.format (p.tick s a).pump.frames.bytes ∧
      (p.tick s a).EndsShowing p s image := by
  rcases tick_stages hb s a with ⟨-, -, hnone, -⟩ |
    ⟨r', length, hr', -, -, ⟨e, hfailed, -⟩ | ⟨hpanic, -⟩ | ⟨-, image, himage, hend⟩⟩
  · exact absurd hr (hnone r)
  · rw [hf] at hfailed
    cases hfailed
  · rw [hf] at hpanic
    cases hpanic
  · obtain rfl := hr.reports.unique hr'.reports
    exact ⟨image, himage, hend⟩

/-- A tick comes to nothing exactly if no frame is there. -/
theorem outcome_tick_eq_notReady_iff (hb : p.frames.Sound) (s : Surface T) (a : Engine.Answers) :
    (p.tick s a).outcome = .ok .notReady ↔ ∃ r, a.Reports r ∧ ¬ r.IsPositive := by
  constructor
  · intro hidle
    rcases tick_stages hb s a with ⟨-, -, -, ⟨e, -, hend⟩ | ⟨r, hr, hnot, -⟩ | ⟨r, -, -, -, hend⟩⟩ |
      ⟨r, length, -, -, -, ⟨e, -, hend⟩ | ⟨-, hend⟩ | ⟨-, image, -, hend⟩⟩
    · exact absurd (hend.outcome.symm.trans hidle) (by simp)
    · exact ⟨r, hr, hnot⟩
    · exact absurd (hend.outcome.symm.trans hidle) (by simp)
    · exact absurd (hend.outcome.symm.trans hidle) (by simp)
    · exact absurd (hend.outcome.symm.trans hidle) (by simp)
    · exact absurd hidle hend.ne_notReady
  · rintro ⟨r, hr, hnot⟩
    rcases tick_stages hb s a with ⟨-, -, -, ⟨e, hfailed, -⟩ | ⟨r', -, -, hend⟩ | ⟨r', hr', hpos, -⟩⟩ |
      ⟨r', length, hr', -⟩
    · exact absurd hfailed (hr.queryError?_ne_some e)
    · exact hend.outcome
    · exact absurd (hr.unique hr' ▸ hpos) hnot
    · exact absurd hr' (Engine.Answers.not_offers_of_not_positive hr hnot r')

/-- The errors of a tick are those of its own stages and those of the target. -/
theorem outcome_tick_eq_error_iff (hb : p.frames.Sound) (s : Surface T) (a : Engine.Answers)
    (e : FrameError) :
    (p.tick s a).outcome = .error e ↔
      a.FailsWith p.frames.format e ∨
        s.Returned (Effect.targetCalls (p.tick s a).effects) (.error e) := by
  rcases tick_stages hb s a with
    ⟨-, -, -, ⟨e', hfailed, hend⟩ | ⟨r, hr, hnot, hend⟩ | ⟨r, hr, hpos, hshort, hend⟩⟩ |
    ⟨r, length, hoffers, -, -, ⟨e', hfailed, hend⟩ | ⟨hpanic, hend⟩ | ⟨hfetched, image, -, hend⟩⟩
  · rw [Engine.Answers.failsWith_iff_of_queryError hfailed]
    exact hend.outcome_eq_error_iff
  · have hown : ¬ a.FailsWith p.frames.format e := Engine.Answers.not_failsWith_of_not_positive hr hnot
    rw [or_iff_right hown, hend.outcome, iff_false_right (hend.not_returned _)]
    simp
  · rw [Engine.Answers.failsWith_iff_of_short hr hpos hshort]
    exact hend.outcome_eq_error_iff
  · have hown : a.FailsWith p.frames.format e ↔ e = .ofFetch e' := by
      rw [Engine.Answers.failsWith_iff_of_offers hoffers, hfailed]
      simp
    rw [hown]
    exact hend.outcome_eq_error_iff
  · rw [Engine.Answers.failsWith_iff_of_offers hoffers, hpanic, or_iff_left (hend.not_returned _),
      hend.outcome]
    simp
  · rw [Engine.Answers.failsWith_iff_of_offers hoffers, hfetched, hend.returned_iff (by simp),
      hend.outcome, Outcome.map_eq_error_iff]
    simp

/-- A tick panics with its fetch or with the target. -/
theorem outcome_tick_eq_panic_iff (hb : p.frames.Sound) (s : Surface T) (a : Engine.Answers) :
    (p.tick s a).outcome = .panic ↔
      (∃ r, a.Offers p.frames.format r) ∧ a.fetch.outcome = .panic ∨
        s.Returned (Effect.targetCalls (p.tick s a).effects) .panic := by
  rcases tick_stages hb s a with
    ⟨-, -, hnone, ⟨e, -, hend⟩ | ⟨r, -, -, hend⟩ | ⟨r, -, -, -, hend⟩⟩ |
    ⟨r, length, hoffers, -, -, ⟨e, hfailed, hend⟩ | ⟨hpanic, hend⟩ | ⟨hfetched, image, -, hend⟩⟩
  · rw [or_iff_left (hend.not_returned _), hend.outcome]
    simp [hnone]
  · rw [or_iff_left (hend.not_returned _), hend.outcome]
    simp [hnone]
  · rw [or_iff_left (hend.not_returned _), hend.outcome]
    simp [hnone]
  · rw [or_iff_left (hend.not_returned _), hend.outcome, hfailed]
    simp
  · rw [or_iff_left (hend.not_returned _), hend.outcome, hpanic]
    simp [show ∃ r, a.Offers p.frames.format r from ⟨r, hoffers⟩]
  · rw [hend.returned_iff (by simp), hend.outcome, Outcome.map_eq_panic_iff, hfetched]
    simp

/-- A frame is counted exactly if it was drawn. -/
theorem frameCount_tick (hb : p.frames.Sound) (s : Surface T) (a : Engine.Answers) :
    (p.tick s a).pump.frameCount =
      p.frameCount + if (p.tick s a).outcome = .ok .presented then 1 else 0 := by
  by_cases h : (∃ r, a.Offers p.frames.format r) ∧ a.fetch.outcome = .ok ()
  · obtain ⟨⟨r, hr⟩, hf⟩ := h
    obtain ⟨image, -, hend⟩ := shown_tick hb s hr hf
    exact hend.frameCount
  · obtain ⟨x, hx, hend⟩ := untouched_tick hb s h
    rw [hend.frameCount, hend.outcome, if_neg hx, Nat.add_zero]

/-- A tick is for the session and from the display that the pump was built with. -/
theorem source_tick (p : Pump) (s : Surface T) (a : Engine.Answers) :
    (p.tick s a).pump.session = p.session ∧ (p.tick s a).pump.display = p.display := by
  by_cases hv : (p.prepare a).verdict = .ok .ready
  · obtain ⟨r, g, replaced, frames, -, -, -, hpump, -⟩ := prepare_of_ready hv
    rw [tick_of_ready s hv, hpump]
    dsimp only
    rw [pump_deliver]
    exact ⟨rfl, rfl⟩
  · rw [(tick_of_not_ready s hv).1]
    exact ⟨rfl, rfl⟩

end

end Pump

namespace Playback

variable {T : Type} [Drawable T]

/-- The pump keeps its session and its display through every history. -/
theorem source_run (p : Playback T) (history : List (Moment T)) :
    (p.run history).pump.session = p.pump.session ∧ (p.run history).pump.display = p.pump.display := by
  refine run_induction (P := fun _ q =>
    q.pump.session = p.pump.session ∧ q.pump.display = p.pump.display) ⟨rfl, rfl⟩ ?_ history
  rintro earlier (a | event) ⟨hsession, hdisplay⟩
  · obtain ⟨hsession', hdisplay'⟩ := (p.run earlier).pump.source_tick (p.run earlier).surface a
    exact ⟨hsession'.trans hsession, hdisplay'.trans hdisplay⟩
  · exact ⟨hsession, hdisplay⟩

/-- **A tick ends at its first failing stage and does nothing beyond it.**  Let a pump tick through any
history, and then once more, whatever the surface is, the engine answers and the bound target does.

* The engine is asked for size, width and height, in this order, each only if the ones before were
  answered; and it is called for a fetch, with a buffer of the reported size, exactly if all three are
  positive and the size is enough for the width and the height.
* A target is called only if that fetch succeeds.  Without a fetch the frame buffer is as it was, and
  without one that succeeds the surface is, too.
* The tick comes to nothing exactly if the questions are answered and a word is not positive.
* It fails with an error of its own stages, or with one that the bound target returned; its own are those
  of `FailsWith`, so that a frame which was fetched is never found not to be.  It panics exactly if the
  fetch or the target does.
* Else it comes to what the surface makes of the frame that was fetched.
* A frame is counted exactly if it was drawn. -/
theorem tick_ends_at_first_failure (session : String) (config : PumpSettings) (surface : Surface T)
    (history : List (Moment T)) (s : Surface T) (a : Engine.Answers) :
    let p := (run ⟨.new session config, surface⟩ history).pump
    let t := p.tick s a
    let asked := Effect.engineCalls t.effects
    let made := Effect.targetCalls t.effects
    let offered := ∃ r, a.Offers config.format r
    ((∃ length, asked <+:
        [.size session, .width session, .height session, .fetch session config.display length]) ∧
      .size session ∈ asked ∧
      (.width session ∈ asked ↔ ∃ size, a.size = .ok size) ∧
      (.height session ∈ asked ↔ (∃ size, a.size = .ok size) ∧ ∃ width, a.width = .ok width) ∧
      ∀ length : Nat, .fetch session config.display length ∈ asked ↔
        ∃ r, a.Offers config.format r ∧ (length : Int) = r.size.toInt) ∧
    (made ≠ [] → offered ∧ a.fetch.outcome = .ok ()) ∧
    (¬ offered → t.pump.frames = p.frames) ∧
    (¬ (offered ∧ a.fetch.outcome = .ok ()) → t.surface = s) ∧
    (t.outcome = .ok .notReady ↔ ∃ r, a.Reports r ∧ ¬ r.IsPositive) ∧
    (∀ e, t.outcome = .error e ↔ a.FailsWith config.format e ∨ s.Returned made (.error e)) ∧
    (t.outcome = .error .notFetched → s.Returned made (.error .notFetched)) ∧
    (t.outcome = .panic ↔
      offered ∧ a.fetch.outcome = .panic ∨ s.Returned made .panic) ∧
    (∀ r, a.Offers config.format r → a.fetch.outcome = .ok () →
      ∃ image, image.IsFrame r config.format t.pump.frames.bytes ∧
        made = (s.present image).calls ∧ t.surface = (s.present image).surface ∧
        t.outcome = (s.present image).outcome.map .ofPresentation) ∧
    t.pump.frameCount = p.frameCount + if t.outcome = .ok .presented then 1 else 0 := by
  intro p t asked made offered
  have hnew : (Pump.new session config).frames.Sound := FrameBuffer.sound_new config.format
  obtain ⟨hsound, hformat⟩ :=
    sound_frames_run (p := ⟨.new session config, surface⟩) hnew history
  obtain ⟨hsession, hdisplay⟩ := source_run ⟨.new session config, surface⟩ history
  have hb : p.frames.Sound := hsound
  have hf : p.frames.format = config.format := hformat
  have hs : p.session = session := hsession
  have hd : p.display = config.display := hdisplay
  have herror := Pump.outcome_tick_eq_error_iff hb s a
  have huntouched := Pump.untouched_tick hb s (a := a)
  have hasked := Pump.asked_tick hb s a
  rw [hf] at herror huntouched
  rw [hs, hd, hf] at hasked
  refine ⟨hasked, ?_, ?_, ?_, Pump.outcome_tick_eq_notReady_iff hb s a, herror, ?_, ?_, ?_,
    Pump.frameCount_tick hb s a⟩
  · intro hmade
    by_contra hnot
    obtain ⟨x, -, hend⟩ := huntouched hnot
    exact hmade hend.made
  · intro hnot
    exact Pump.frames_tick_of_not_offered hb s (hf.symm ▸ hnot)
  · intro hnot
    obtain ⟨x, -, hend⟩ := huntouched hnot
    exact hend.surface
  · intro hnotFetched
    refine ((herror _).mp hnotFetched).resolve_left ?_
    intro hown
    cases hown
  · have hpanic := Pump.outcome_tick_eq_panic_iff hb s a
    rw [hf] at hpanic
    exact hpanic
  · intro r hr hfetched
    obtain ⟨image, himage, hend⟩ := Pump.shown_tick hb s (hf.symm ▸ hr) hfetched
    rw [hf] at himage
    exact ⟨image, himage, hend.made, hend.surface, hend.outcome⟩

end Playback

end DeskView
