import DeskView.Proofs.Pump.Origin
import DeskView.Proofs.Session.Happenings
import DeskView.Proofs.Session.Status
import DeskView.Surface.StandIn

/-!
# Every session starts afresh

A start that succeeds gives its session a pump of its own on a thread of its own (`start_of_ok`), and all
that the thread does from then on is what that pump does on its own (`Controller.pulls_performAll`).  So
nothing of an earlier session is left to be seen in a later one, neither in what is fetched nor in what is
drawn (`sessions_share_no_pixels`), whatever became of the earlier one and even while its thread is still
drawing on the same surface.
-/

namespace DeskView.Controller

variable {T : Type} [Drawable T]

/-! ### The settings of a pump -/

omit [Drawable T] in
theorem stable_config (config : PumpSettings) :
    Stable fun c : Controller T => c.config = config where
  surface _ _ h := h
  move c k _ t' h _ _ _ := by
    unfold move hear
    split <;> exact h
  tell _ _ _ h _ := h

theorem config_stop (c : Controller T) (s : Stopping T) : (c.stop s).controller.config = c.config := by
  cases hsession : c.session with
  | none => rw [stop_of_none hsession]
  | some session =>
    obtain ⟨c', hconfig, hstop⟩ := (stable_config c.config).stop hsession rfl s
    rw [hstop]
    exact hconfig

theorem config_openSession (c : Controller T) (id : String) (credentials : Credentials)
    (mode : SessionMode) (replies : Replies T) :
    (c.openSession id credentials mode replies).controller.config = c.config := by
  obtain ⟨c', hconfig, h | h | h⟩ := (stable_config c.config).openSession (c := c) rfl id credentials
    mode replies <;> rw [h] <;> exact hconfig

theorem config_perform (c : Controller T) (operation : Operation T) :
    (c.perform operation).controller.config = c.config := by
  cases operation with
  | start id credentials mode replies =>
    rcases c.start_cases id credentials mode replies with ⟨hsame, -⟩ | ⟨-, -, hopen⟩ |
      ⟨-, -, -, -, hopen, -⟩
    · exact congrArg config hsame
    · exact (congrArg (·.controller.config) hopen).trans (c.config_openSession id credentials mode replies)
    · exact ((congrArg config hopen).trans (config_openSession _ id credentials mode replies)).trans
        (c.config_stop replies.stopping)
  | stop s => exact c.config_stop s
  | drop s => exact c.config_stop s
  | event event => exact (stable_config c.config).happen rfl event

/-! ### A start that succeeds -/

/-- A session that was opened has a thread of its own, and whatever is stable holds until it gets it. -/
theorem Stable.openSession_of_ok {P : Controller T → Prop} (hP : Stable P) {c : Controller T}
    (hc : P c.opening) {id : String} {credentials : Credentials} {mode : SessionMode}
    {replies : Replies T} (h : (c.openSession id credentials mode replies).reply = .ok ()) :
    ∃ c', P c' ∧ (c.openSession id credentials mode replies).controller =
      { c' with
        session := some ⟨id, mode, some c'.threads.size⟩
        threads := c'.threads.push ⟨c.epoch + 1, .new id c'.config, .waiting⟩ }.advance .active := by
  have hopening := hP.happenAll hc replies.opening
  unfold Controller.openSession at h ⊢
  dsimp only at h ⊢
  cases hstart : replies.start with
  | error e =>
    rw [hstart] at h
    cases h
  | ok accepted =>
    cases hspawn : replies.spawn with
    | error reason =>
      rw [hstart, hspawn] at h
      cases h
    | ok spawned => exact ⟨_, hopening, rfl⟩

theorem openSession_of_ok {c : Controller T} {id : String} {credentials : Credentials}
    {mode : SessionMode} {replies : Replies T}
    (h : (c.openSession id credentials mode replies).reply = .ok ()) :
    let opened := (c.openSession id credentials mode replies).controller
    opened.session = some ⟨id, mode, some c.threads.size⟩ ∧
      opened.threads[c.threads.size]? = some ⟨c.epoch + 1, .new id c.config, .waiting⟩ := by
  have hstable := (stable_config (T := T) c.config).and (stable_size c.threads.size)
  obtain ⟨c', ⟨hconfig, hsize⟩, hopened⟩ := hstable.openSession_of_ok (c := c) ⟨rfl, rfl⟩ h
  rw [hopened, ← hsize, ← hconfig]
  exact ⟨rfl, Array.getElem?_push_size⟩

/-- **A start that succeeds begins with a new pump** on a thread that is the latest of all, whatever it
had to stop before. -/
theorem start_of_ok {c : Controller T} {id : String} {credentials : Credentials} {mode : SessionMode}
    {replies : Replies T} (h : (c.start id credentials mode replies).reply = .ok ()) :
    let started := (c.start id credentials mode replies).controller
    started.session = some ⟨id, mode, some c.threads.size⟩ ∧
      ∃ t, started.threads[c.threads.size]? = some t ∧ t.pump = .new id c.config ∧
        t.phase = .waiting := by
  unfold start at h ⊢
  by_cases hid : id.isEmpty = true
  · rw [if_pos hid] at h
    cases h
  · rw [if_neg hid] at h ⊢
    cases hsession : c.session with
    | none =>
      rw [hsession] at h
      obtain ⟨hopened, hthread⟩ := openSession_of_ok h
      exact ⟨hopened, _, hthread, rfl, rfl⟩
    | some current =>
      rw [hsession] at h
      dsimp only at h ⊢
      by_cases hlive : c.status.isLive = true
      · rw [if_pos hlive] at h
        cases h
      · rw [if_neg hlive] at h ⊢
        obtain ⟨hopened, hthread⟩ := openSession_of_ok h
        rw [size_stop] at hopened hthread
        exact ⟨hopened, _, hthread, congrArg (Pump.new id) (c.config_stop replies.stopping), rfl⟩

/-! ### What is left of earlier sessions -/

omit [Drawable T] in
/-- The frames that a controller says were shown are those that the pump of its session has drawn. -/
theorem framesShown_of_thread {c : Controller T} {session : Session} {k : Nat} {t : Thread}
    (hsession : c.session = some session) (hk : session.thread = some k)
    (ht : c.threads[k]? = some t) : c.framesShown = t.pump.frameCount := by
  have hthread : c.thread? = some t := thread?_eq_some_iff.mpr ⟨session, k, hsession, hk, ht⟩
  unfold framesShown
  rw [hthread]

/-- What a thread's pump has in its buffer: zeros, or what it fetched last. -/
theorem isFrom_pulled {t : Thread} {p : Pump} (hp : FetchCall.IsFrom [] p.frames.bytes) {x : Pulling T}
    (h : t.Pulled p x) : FetchCall.IsFrom (p.fetches x.done) t.pump.frames.bytes := by
  have hdone := Pump.isFrom_after hp x.done
  rw [List.nil_append] at hdone
  rw [h.pump.frames]
  unfold Pulling.pump
  cases hheld : x.held with
  | none => exact hdone
  | some a =>
    have hfetch : (p.after x.done).fetch? a =
        some ⟨((p.after x.done).prepare a).pump.frames.bytes, a.fetch⟩ := by
      simp only [Pump.fetch?, h.ready a hheld]
    exact Pump.isFrom_fetch? hdone hfetch

/-- **Sessions share no pixels.**  Let a start succeed, whatever was done with the controller before, and
let anything happen after that, other sessions and their threads included.  Let `pulled` be what the
session's thread has pulled by then.

* The thread has called the engine and has drawn just as a new pump with the session's id and the
  controller's settings does when it pulls the same.
* So does a new pump on any surface of its own, through any history in which it gets the same frames and
  its targets answer alike; and the number of frames shown is what it has counted from zero.
* Whatever a fetch does not write over is zeros, or it is what the session itself fetched before. -/
theorem sessions_share_no_pixels (config : PumpSettings) (surface : Surface T)
    (earlier : List (Operation T)) (id : String) (credentials : Credentials) (mode : SessionMode)
    (replies : Replies T) (later : List (Operation T)) :
    let c := ((new config surface).performAll earlier).controller
    let started := c.start id credentials mode replies
    let k := c.threads.size
    let done := started.controller.performAll later
    let effects := Noted.effectsOf (.pump k) done.noted
    let fresh := Pump.new id config
    let pulled := (started.controller.happeningsAll later).foldl (Pulling.step k) {}
    started.reply = .ok () →
    started.controller.session = some ⟨id, mode, some k⟩ ∧ started.controller.framesShown = 0 ∧
    Effect.Agree effects (pulled.effects fresh) ∧
    (∀ (T' : Type) [Drawable T'] (own : Surface T') (history : List (Moment T')),
      let p : Playback T' := ⟨fresh, own⟩
      List.Forall₂ Pull.Alike pulled.done (p.pulls history) →
      let begun := (p.run history).pump.underWay pulled.held
      Effect.Agree effects ((p.ticks history).flatMap Ticked.effects ++ begun.effects) ∧
      ∀ session, done.controller.session = some session → session.thread = some k →
        done.controller.framesShown = (p.run history).pump.frameCount) ∧
    (∀ before x after, fresh.fetches pulled.done = before ++ x :: after →
      FetchCall.IsFrom before x.buffer) ∧
    ∃ t, done.controller.threads[k]? = some t ∧ t.pump.frames = (pulled.pump fresh).frames ∧
      FetchCall.IsFrom (fresh.fetches pulled.done) t.pump.frames.bytes := by
  intro c started k done effects fresh pulled hreply
  have hconfig : c.config = config := by
    refine performAll_induction (c := new config surface) (P := fun _ c _ => c.config = config) rfl
      (fun _ operation c' _ h => (c'.config_perform operation).trans h) earlier
  have hblank : FetchCall.IsFrom [] fresh.frames.bytes := .inl rfl
  obtain ⟨hsession, t₀, ht₀, hpump, hphase⟩ := start_of_ok hreply
  rw [hconfig] at hpump
  -- the thread begins as the new pump does, and keeps to it
  have hbegins : t₀.Pulled fresh ({} : Pulling T) := by
    refine ⟨by simp [Thread.fetching?, hphase], fun a ha => (by cases ha), ?_⟩
    rw [hpump]
    exact .refl _
  obtain ⟨t, ht, hpulled, hagree⟩ :=
    pulls_performAll k started.controller later fresh {} t₀ ht₀ hbegins
  have hdrawn : Effect.Agree effects (pulled.effects fresh) := hagree.symm
  refine ⟨hsession, ?_, hdrawn, ?_, fun before x after hx => Pump.isFrom_of_fetches_eq hblank hx,
    t, ht, hpulled.pump.frames, isFrom_pulled hblank hpulled⟩
  · rw [framesShown_of_thread hsession rfl ht₀, hpump]
    rfl
  · intro T' _ own history p halike begun
    obtain ⟨hticks, hmatches⟩ := (Pump.Matches.refl fresh).pullAll halike
    have hrun : (p.run history).pump = fresh.after (p.pulls history) := p.pump_run history
    obtain ⟨hbegun, hmatches'⟩ := hmatches.underWay pulled.held
    rw [← hrun] at hbegun hmatches'
    constructor
    · refine hdrawn.trans (Effect.Agree.append ?_ hbegun)
      rw [p.ticks_eq_pullAll]
      exact hticks
    · intro session hcurrent hk
      have hcount : t.pump.frameCount = begun.pump.frameCount :=
        hpulled.pump.frameCount.trans hmatches'.frameCount
      rw [framesShown_of_thread hcurrent hk ht, hcount]
      exact Pump.frameCount_underWay _ pulled.held

/-- An engine that paints but half of a pixel. -/
def halfPixel : Engine.Answers :=
  ⟨.ok 4, .ok 1, .ok 1, ⟨fun buffer i => if i < 2 then 5 else buffer.getD i 0, .ok (), false⟩⟩

/-- A session whose thread hangs in a fetch when it is stopped. -/
def hanging : List (Operation Recorder) :=
  let sevens := Engine.Answers.onePixel 7 (.ok ())
  [.event (.surface (.created ⟨1, 1, none⟩)), .start "7" {} .interactive {},
    .event (.wake 0 { sevens with fetch := { sevens.fetch with blocks := true } }), .stop {}]

/-- Two frames of the next session, and the fetch of the last one comes back between them. -/
def interleaved : List (Operation Recorder) :=
  [.event (.wake 1 halfPixel), .event (.resume 0), .event (.wake 1 halfPixel)]

/-- The next session after the one that hangs. -/
def afterHanging : Step Recorder (Except SessionError Unit) :=
  ((new {} { scale := .stretch }).performAll hanging).controller.start "7" {} .interactive {}

/-- A new pump on a surface of its own. -/
def apart : Playback Recorder := ⟨.new "7" {}, { scale := .letterbox }⟩

/-- The same two frames for the pump on its own. -/
def twoFrames : List (Moment Recorder) :=
  [.surface (.created ⟨1, 1, none⟩), .tick halfPixel, .tick halfPixel]

/-- The thread of the last session shows a frame of sevens in the middle of the next one.  An engine that
paints only half of a pixel in that session gets to see zeros in the other half. -/
theorem sessions_share_no_pixels_after_hanging :
    Effect.images (Noted.effectsOf (.pump 0) (afterHanging.controller.performAll interleaved).noted) =
      [⟨1, 1, .rgba8, #[7, 7, 7, 7]⟩] ∧
    Effect.images (Noted.effectsOf (.pump 1) (afterHanging.controller.performAll interleaved).noted) =
      [⟨1, 1, .rgba8, #[5, 5, 0, 0]⟩, ⟨1, 1, .rgba8, #[5, 5, 0, 0]⟩] ∧
    (afterHanging.controller.performAll interleaved).controller.framesShown =
      (apart.run twoFrames).pump.frameCount := by
  let bound (scale : ScaleMode) : Surface Recorder :=
    Surface.apply { scale } (.created ⟨1, 1, none⟩)
  have hreply : afterHanging.reply = .ok () := rfl
  have hsize : ((new {} { scale := .stretch }).performAll hanging).controller.threads.size = 1 := rfl
  have hfresh := sessions_share_no_pixels (T := Recorder) {} { scale := .stretch } hanging "7" {}
    .interactive {} interleaved hreply
  rw [hsize] at hfresh
  obtain ⟨-, -, -, hown, -⟩ := hfresh
  -- a recorder takes every frame, however it is scaled
  have halike : (bound .stretch).Alike (bound .letterbox) := fun _ => ⟨rfl, rfl⟩
  have hpulled : ((afterHanging.controller.happeningsAll interleaved).foldl (Pulling.step 1) {}).done =
      [⟨halfPixel, bound .stretch⟩, ⟨halfPixel, bound .stretch⟩] := rfl
  have hpulls : apart.pulls twoFrames =
      [⟨halfPixel, bound .letterbox⟩, ⟨halfPixel, bound .letterbox⟩] := rfl
  have hpairs : List.Forall₂ Pull.Alike
      ((afterHanging.controller.happeningsAll interleaved).foldl (Pulling.step 1) {}).done
      (apart.pulls twoFrames) := by
    rw [hpulled, hpulls]
    exact .cons ⟨rfl, halike⟩ (.cons ⟨rfl, halike⟩ .nil)
  obtain ⟨hagree, hcount⟩ := hown Recorder { scale := .letterbox } twoFrames hpairs
  have hsession : (afterHanging.controller.performAll interleaved).controller.session =
      some ⟨"7", .interactive, some 1⟩ := rfl
  exact ⟨by decide, hagree.images.trans (by decide), hcount _ hsession rfl⟩

end DeskView.Controller
