import DeskView.Proofs.Session.Fresh
import DeskView.Proofs.Session.Silence

/-!
# What comes of a start

A start is refused and leaves no trace, or it asks the engine, after it has released a session that had
died.  A session that the engine accepts has a pump and is active until the pump loses its link or the
session is stopped (`Controller.HasStarted`).  One that the engine does not accept, or that gets no pump,
has terminated from the beginning and is only kept to be released (`Controller.HasFailed`).

`Orderly` collects what is known of a controller between two operations, and `Orderly.start_of_free` brings
a start that is not refused down to opening a session where there is none.  `start_does_as_it_answers` puts
the outcomes together.
-/

namespace DeskView.Controller

variable {T : Type}

/-- Whether an operation stops the session whatever its status is. -/
def Operation.isStop : Operation T → Bool
  | .start .. => false
  | .stop _ => true
  | .drop _ => true
  | .event _ => false

/-- Whether there is such a thread and it has lost its link. -/
def hasLostLink (c : Controller T) (k : Nat) : Bool := (c.threads[k]?).any Thread.lostLink

variable [Drawable T]

/-! ### Between two operations -/

/-- What is known of a controller between two operations. -/
structure Orderly (c : Controller T) : Prop where
  settled : c.Settled
  announced : c.Announced
  silent : c.OthersSilent

omit [Drawable T] in
theorem orderly_new (config : PumpSettings) (surface : Surface T) : (new config surface).Orderly where
  settled := .fresh rfl rfl rfl
  announced := announced_new config surface
  silent := by
    intro k t ht
    simp [new] at ht

theorem Orderly.performAll {c : Controller T} (h : c.Orderly) (operations : List (Operation T)) :
    (c.performAll operations).controller.Orderly := by
  refine performAll_induction (P := fun _ c _ => c.Orderly) h ?_ operations
  intro _ operation c' _ h'
  obtain ⟨hsettled, hannounced, -⟩ := settled_perform h'.settled h'.announced operation
  exact ⟨hsettled, hannounced, othersSilent_perform h'.silent operation⟩

omit [Drawable T] in
/-- A session without a thread has terminated. -/
theorem Settled.status_of_threadless {c : Controller T} (h : c.Settled) {session : Session}
    (hsession : c.session = some session) (hthread : session.thread = none) : c.status = .terminated := by
  refine (h.status_of_session hsession).resolve_left fun hactive => ?_
  obtain ⟨t, ht, -⟩ := h.status_eq_active_iff.mp hactive
  obtain ⟨session', k, hsession', hk, -⟩ := thread?_eq_some_iff.mp ht
  cases hsession.symm.trans hsession'
  rw [hthread] at hk
  cases hk

omit [Drawable T] in
/-- A session whose thread has lost its link has terminated. -/
theorem Settled.status_of_hasLostLink {c : Controller T} (h : c.Settled) {session : Session} {k : Nat}
    (hsession : c.session = some session) (hk : session.thread = some k)
    (hlost : c.hasLostLink k = true) : c.status = .terminated := by
  refine (h.status_of_session hsession).resolve_left fun hactive => ?_
  obtain ⟨t, ht, hlinked⟩ := h.status_eq_active_iff.mp hactive
  obtain ⟨session', k', hsession', hk', ht'⟩ := thread?_eq_some_iff.mp ht
  cases hsession.symm.trans hsession'
  cases hk.symm.trans hk'
  unfold hasLostLink at hlost
  rw [ht', Option.any_some, hlinked] at hlost
  cases hlost

omit [Drawable T] in
/-- If a start is not refused for the session that there is, then nobody has anything to ask. -/
theorem Orderly.allSilent_of_free {c : Controller T} (h : c.Orderly)
    (hfree : ∀ current, c.session = some current → c.status.isLive = false) : c.AllSilent := by
  intro k t ht
  by_cases hcurrent : ∃ session, c.session = some session ∧ session.thread = some k
  · -- the thread of a session that is not live has lost its link
    obtain ⟨session, hsession, hk⟩ := hcurrent
    have hdead := hfree session hsession
    refine .inl (by_contra fun hgoing => ?_)
    have hlinked := Thread.lostLink_of_going (by simpa using hgoing)
    have hactive := h.settled.status_eq_active_iff.mpr
      ⟨t, thread?_eq_some_iff.mpr ⟨session, k, hsession, hk, ht⟩, hlinked⟩
    rw [hactive] at hdead
    cases hdead
  · exact h.silent k t ht fun session hsession hk => hcurrent ⟨session, hsession, hk⟩

/-! ### The ways through a start -/

theorem start_of_empty (c : Controller T) (credentials : Credentials) (mode : SessionMode)
    (replies : Replies T) :
    c.start "" credentials mode replies =
      ⟨.error .invalidId, c, [notes (Log.warn "invalid remote id")]⟩ := rfl

theorem start_of_live {c : Controller T} {id : String} {current : Session} (hid : id ≠ "")
    (hsession : c.session = some current) (hlive : c.status.isLive = true) (credentials : Credentials)
    (mode : SessionMode) (replies : Replies T) :
    c.start id credentials mode replies = ⟨.error (.alreadyActive current.id), c, []⟩ := by
  unfold start
  rw [if_neg (by simpa using hid), hsession]
  dsimp only
  rw [if_pos hlive]

/-- A start that is not refused opens a session from a controller that has none, in which nobody has
anything to ask.  Before that it has at most released the session that had died. -/
theorem Orderly.start_of_free {c : Controller T} (h : c.Orderly) {id : String} (hid : id ≠ "")
    (hfree : ∀ current, c.session = some current → c.status.isLive = false)
    (credentials : Credentials) (mode : SessionMode) (replies : Replies T) :
    ∃ (c' : Controller T) (released : List Noted), c'.Orderly ∧ c'.session = none ∧
      c'.threads.size = c.threads.size ∧
      Noted.engineCalls released = (c.session.map fun session => Engine.Call.stop session.id).toList ∧
      (c.start id credentials mode replies).reply = (c'.openSession id credentials mode replies).reply ∧
      (c.start id credentials mode replies).controller =
        (c'.openSession id credentials mode replies).controller ∧
      (c.start id credentials mode replies).noted =
        released ++ (c'.openSession id credentials mode replies).noted := by
  have hsilent := h.allSilent_of_free hfree
  unfold start
  rw [if_neg (by simpa using hid)]
  cases hsession : c.session with
  | none => exact ⟨c, [], h, hsession, rfl, rfl, rfl, rfl, rfl⟩
  | some current =>
    dsimp only
    rw [if_neg (by simp [hfree current hsession])]
    obtain ⟨hsettled, hannounced, -⟩ := settled_stop h.settled h.announced replies.stopping
    obtain ⟨hcalls, hsilent'⟩ := hsilent.stop replies.stopping
    refine ⟨(c.stop replies.stopping).controller, (c.stop replies.stopping).noted,
      ⟨hsettled, hannounced, fun k t ht _ => hsilent' k t ht⟩, c.session_stop replies.stopping,
      size_stop c replies.stopping, ?_, rfl, rfl, rfl⟩
    rw [hcalls, sessionCalls_stop hsession]
    rfl

/-- A session that the engine does not accept is kept without a thread, and the engine's error is the
answer. -/
theorem openSession_of_rejected (c : Controller T) (id : String) (credentials : Credentials)
    (mode : SessionMode) {replies : Replies T} {e : EngineError} (h : replies.start = .error e) :
    let opened := c.openSession id credentials mode replies
    opened.reply = .error (.ofEngine e) ∧ opened.controller.session = some ⟨id, mode, none⟩ := by
  unfold openSession
  rw [h]
  exact ⟨rfl, rfl⟩

/-- A session that gets no thread is kept without one. -/
theorem openSession_of_threadless (c : Controller T) (id : String) (credentials : Credentials)
    (mode : SessionMode) {replies : Replies T} {reason : String} (h : replies.start = .ok ())
    (hspawn : replies.spawn = .error reason) :
    let opened := c.openSession id credentials mode replies
    opened.reply = .error (.spawn reason) ∧ opened.controller.session = some ⟨id, mode, none⟩ := by
  unfold openSession
  rw [h, hspawn]
  exact ⟨rfl, rfl⟩

theorem reply_openSession_of_accepted (c : Controller T) (id : String) (credentials : Credentials)
    (mode : SessionMode) {replies : Replies T} (h : replies.start = .ok ())
    (hspawn : replies.spawn = .ok ()) : (c.openSession id credentials mode replies).reply = .ok () := by
  unfold openSession
  rw [h, hspawn]

theorem Orderly.openSession {c : Controller T} (h : c.Orderly) (hsession : c.session = none)
    (id : String) (credentials : Credentials) (mode : SessionMode) (replies : Replies T) :
    (c.openSession id credentials mode replies).controller.Orderly := by
  obtain ⟨hsettled, hannounced, -⟩ :=
    settled_openSession h.settled h.announced hsession id credentials mode replies
  exact ⟨hsettled, hannounced,
    (h.silent.allSilent_of_none hsession).openSession id credentials mode replies⟩

/-! ### A session that has started -/

/-- A session has started with this id and mode, and its pump is on thread `k`. -/
structure HasStarted (c : Controller T) (id : String) (mode : SessionMode) (k : Nat) : Prop where
  session : c.session = some ⟨id, mode, some k⟩
  /-- The pump is new and waits for its first tick. -/
  pump : ∃ t, c.threads[k]? = some t ∧ t.pump = .new id c.config ∧ t.phase = .waiting
  status : c.status = .active
  /-- It remains so as long as nobody stops it and the pump does not lose its link. -/
  lasting : ∀ later, (∀ operation ∈ later, operation.isStop = false) →
    (c.performAll later).controller.hasLostLink k = false →
    (c.performAll later).controller.session = c.session ∧
      (c.performAll later).controller.status = .active
  /-- Either ends it at once. -/
  ending : ∀ later, (c.performAll later).controller.session = c.session →
    ((c.performAll later).controller.hasLostLink k = true →
      (c.performAll later).controller.status = .terminated) ∧
    ∀ s, ((c.performAll later).controller.stop s).controller.status = .terminated

omit [Drawable T] in
/-- A link that is lost stays lost. -/
theorem Silenced.hasLostLink {k : Nat} {c c' : Controller T} {noted : List Noted}
    (h : c.Silenced k noted c') (hlost : c.hasLostLink k = true) : c'.hasLostLink k = true := by
  unfold Controller.hasLostLink at hlost ⊢
  rw [Option.any_eq_true] at hlost
  obtain ⟨t, ht, hlost⟩ := hlost
  have hended : t.hasEnded = true := by
    by_contra hgoing
    rw [Thread.lostLink_of_going (by simpa using hgoing)] at hlost
    cases hlost
  obtain ⟨-, t', ht', -, hphase⟩ := h t ht (.inl hended)
  rw [ht', Option.any_some]
  unfold Thread.lostLink at hlost ⊢
  rwa [hphase hended]

/-- An operation that is no stop leaves an active session alone, unless its link is lost by it. -/
theorem Orderly.perform_of_active {c : Controller T} (h : c.Orderly) {session : Session} {k : Nat}
    (hsession : c.session = some session) (hk : session.thread = some k) (hactive : c.status = .active)
    {operation : Operation T} (hoperation : operation.isStop = false) :
    (c.perform operation).controller.hasLostLink k = true ∨
      ((c.perform operation).controller.session = some session ∧
        (c.perform operation).controller.status = .active) := by
  cases operation with
  | start id credentials mode replies =>
    have hsame : (c.start id credentials mode replies).controller = c := by
      rcases c.start_cases id credentials mode replies with ⟨hsame, -⟩ | ⟨-, hnone, -⟩ |
        ⟨-, -, -, hdead, -⟩
      · exact hsame
      · rw [hsession] at hnone
        cases hnone
      · rw [hactive] at hdead
        cases hdead
    exact .inr ⟨(congrArg Controller.session hsame).trans hsession,
      (congrArg Controller.status hsame).trans hactive⟩
  | stop s => cases hoperation
  | drop s => cases hoperation
  | event event =>
    change (c.happen event).1.hasLostLink k = true ∨
      (c.happen event).1.session = some session ∧ (c.happen event).1.status = .active
    have hsession' := (stable_session (some session)).happen hsession event
    have hsettled := stable_settled.happen h.settled event
    -- the session's thread is still there, and the status depends on its link
    obtain ⟨t, ht, -⟩ := h.settled.status_eq_active_iff.mp hactive
    obtain ⟨session', k', hcurrent, hk', ht⟩ := thread?_eq_some_iff.mp ht
    cases hsession.symm.trans hcurrent
    cases hk.symm.trans hk'
    have hlt : k < (c.happen event).1.threads.size := by
      rw [(stable_size c.threads.size).happen (c := c) rfl event]
      exact (Array.getElem?_eq_some_iff.mp ht).1
    have ht' := Array.getElem?_eq_getElem hlt
    cases hlink : ((c.happen event).1.threads[k]).lostLink with
    | true =>
      refine .inl ?_
      unfold Controller.hasLostLink
      rw [ht']
      exact hlink
    | false =>
      exact .inr ⟨hsession', hsettled.status_eq_active_iff.mpr
        ⟨_, thread?_eq_some_iff.mpr ⟨session, k, hsession', hk, ht'⟩, hlink⟩⟩

/-- A session remains active until its link is lost or it is stopped. -/
theorem Orderly.performAll_of_active {c : Controller T} (h : c.Orderly) {session : Session} {k : Nat}
    (hsession : c.session = some session) (hk : session.thread = some k) (hactive : c.status = .active)
    {later : List (Operation T)} (hlater : ∀ operation ∈ later, operation.isStop = false) :
    (c.performAll later).controller.hasLostLink k = true ∨
      ((c.performAll later).controller.session = some session ∧
        (c.performAll later).controller.status = .active) := by
  refine (performAll_induction (P := fun operations c' _ => c'.Orderly ∧
    ((∀ operation ∈ operations, operation.isStop = false) → c'.hasLostLink k = true ∨
      (c'.session = some session ∧ c'.status = .active))) ⟨h, fun _ => .inr ⟨hsession, hactive⟩⟩ ?_
    later).2 hlater
  rintro operations operation c' _ ⟨h', hkept⟩
  refine ⟨h'.performAll [operation], fun hnone => ?_⟩
  rcases hkept fun earlier hmem => hnone earlier (List.mem_append_left _ hmem) with
    hlost | ⟨hsession', hactive'⟩
  · exact .inl (((stepwise_silenced k).perform c' operation).hasLostLink hlost)
  · exact h'.perform_of_active hsession' hk hactive' (hnone operation (by simp))

omit [Drawable T] in
/-- A session whose thread waits is active. -/
theorem Settled.status_of_waiting {c : Controller T} (h : c.Settled) {session : Session} {k : Nat}
    {t : Thread} (hsession : c.session = some session) (hk : session.thread = some k)
    (ht : c.threads[k]? = some t) (hphase : t.phase = .waiting) : c.status = .active := by
  have hlinked : t.lostLink = false := by
    unfold Thread.lostLink
    rw [hphase]
  exact h.status_eq_active_iff.mpr ⟨t, thread?_eq_some_iff.mpr ⟨session, k, hsession, hk, ht⟩, hlinked⟩

theorem Orderly.hasStarted {c : Controller T} (h : c.Orderly) {id : String} {mode : SessionMode}
    {k : Nat} (hsession : c.session = some ⟨id, mode, some k⟩) {t : Thread}
    (ht : c.threads[k]? = some t) (hpump : t.pump = .new id c.config) (hphase : t.phase = .waiting) :
    c.HasStarted id mode k where
  session := hsession
  pump := ⟨t, ht, hpump, hphase⟩
  status := h.settled.status_of_waiting hsession rfl ht hphase
  lasting later hlater hlinked := by
    have hactive := h.settled.status_of_waiting hsession rfl ht hphase
    rcases h.performAll_of_active hsession rfl hactive hlater with hlost | ⟨hsession', hactive'⟩
    · rw [hlinked] at hlost
      cases hlost
    · exact ⟨hsession'.trans hsession.symm, hactive'⟩
  ending later hcurrent := by
    have hdone := h.performAll later
    rw [hsession] at hcurrent
    refine ⟨hdone.settled.status_of_hasLostLink hcurrent rfl, fun s => ?_⟩
    obtain ⟨c', -, hstop⟩ := (stable_session none).stop hcurrent rfl s
    rw [hstop, status_advance]
    exact SessionStatus.advance_terminated _

/-! ### A session that has failed -/

/-- A start has failed with this id and mode: the session is there to be released, and for nothing else. -/
structure HasFailed (c : Controller T) (id : String) (mode : SessionMode) : Prop where
  session : c.session = some ⟨id, mode, none⟩
  status : c.status = .terminated
  /-- Whatever is asked about frames from then on is asked by the pumps of later sessions. -/
  unasked : ∀ later, ∀ n ∈ (c.performAll later).noted, n.isQuestion = true →
    ∃ k, n.actor = .pump k ∧ c.threads.size ≤ k ∧ k < (c.performAll later).controller.threads.size
  /-- It stays there, terminated, until it is stopped or another one is started, and a stop releases it. -/
  kept : ∀ later, (∀ operation ∈ later, operation.isStop = false ∧ operation.isNamedStart = false) →
    (c.performAll later).controller.session = c.session ∧
    (c.performAll later).controller.status = .terminated ∧
    ∀ s, ((c.performAll later).controller.stop s).reply = .stopped ∧
      Noted.engineCalls ((c.performAll later).controller.stop s).noted = [.stop id]

/-- Neither an event nor a start without an id takes the session or opens another one. -/
theorem session_performAll {c : Controller T} {later : List (Operation T)}
    (hlater : ∀ operation ∈ later, operation.isStop = false ∧ operation.isNamedStart = false) :
    (c.performAll later).controller.session = c.session := by
  refine performAll_induction (P := fun operations c' _ =>
    (∀ operation ∈ operations, operation.isStop = false ∧ operation.isNamedStart = false) →
      c'.session = c.session) (fun _ => rfl) ?_ later hlater
  intro operations operation c' _ hkept hnone
  have hsession := hkept fun earlier hmem => hnone earlier (List.mem_append_left _ hmem)
  obtain ⟨hstop, hstart⟩ := hnone operation (by simp)
  cases operation with
  | start id credentials mode replies =>
    have hid : id = "" := by simpa [Operation.isNamedStart] using hstart
    subst hid
    exact hsession
  | stop s => cases hstop
  | drop s => cases hstop
  | event event => exact (stable_session c.session).happen hsession event

/-- The pump of a session that has none need not be waited for. -/
theorem reply_stop_of_threadless {c : Controller T} {session : Session} (h : c.session = some session)
    (hthread : session.thread = none) (s : Stopping T) : (c.stop s).reply = .stopped := by
  obtain ⟨warning, hstop⟩ := stop_eq h s
  rw [hstop]
  dsimp only
  unfold awaitPump
  rw [hthread]

omit [Drawable T] in
/-- With a session that has no thread there is nobody left to ask anything. -/
theorem Orderly.allSilent_of_threadless {c : Controller T} (h : c.Orderly) {session : Session}
    (hsession : c.session = some session) (hthread : session.thread = none) : c.AllSilent := by
  intro k t ht
  refine h.silent k t ht fun session' hsession' hk => ?_
  cases hsession.symm.trans hsession'
  rw [hthread] at hk
  cases hk

theorem Orderly.hasFailed {c : Controller T} (h : c.Orderly) {id : String} {mode : SessionMode}
    (hsession : c.session = some ⟨id, mode, none⟩) : c.HasFailed id mode where
  session := hsession
  status := h.settled.status_of_threadless hsession rfl
  unasked later n hn hquestion := by
    have hsilent := h.allSilent_of_threadless hsession rfl
    obtain ⟨k, hactor, hk⟩ := (stepwise_askedByPumps.performAll c later).asked n hn hquestion
    refine ⟨k, hactor, Nat.not_lt.mp fun hlt => ?_, hk⟩
    -- a thread that is there already is silent, and remains so
    have ht := Array.getElem?_eq_getElem hlt
    have hcalls := Noted.engineCalls_effectsOf_ne_nil hn hquestion
    rw [hactor] at hcalls
    exact hcalls ((stepwise_silenced k).performAll c later _ ht (hsilent k _ ht)).1
  kept later hlater := by
    have hdone := h.performAll later
    have hcurrent : (c.performAll later).controller.session = some ⟨id, mode, none⟩ :=
      (session_performAll hlater).trans hsession
    refine ⟨hcurrent.trans hsession.symm, hdone.settled.status_of_threadless hcurrent rfl, fun s => ?_⟩
    have hcalls := ((hdone.allSilent_of_threadless hcurrent rfl).stop s).1
    rw [sessionCalls_stop hcurrent] at hcalls
    exact ⟨reply_stop_of_threadless hcurrent rfl s, hcalls⟩

/-! ### All starts -/

/-- **A start does as it answers.**  Let anything be done with a controller, and then a start, whatever the
engine and the system answer to it and whatever happens meanwhile.

* Without an id, or while there is a session that is live, it is refused: the engine is not called, and the
  controller is left as it was.
* Else the engine is called to release the session that has died, if there is one, and once to open the new
  one, with the id and the password given; and for nothing else.
* If that succeeds and the pump gets its thread, the session has started; else it has failed, with an error
  that says whether the engine is missing. -/
theorem start_does_as_it_answers (config : PumpSettings) (surface : Surface T)
    (earlier : List (Operation T)) (id : String) (credentials : Credentials) (mode : SessionMode)
    (replies : Replies T) :
    let c := ((new config surface).performAll earlier).controller
    let started := c.start id credentials mode replies
    let asked := Noted.engineCalls started.noted
    (id = "" → started.reply = .error .invalidId ∧ started.controller = c ∧ asked = []) ∧
    (∀ current, id ≠ "" → c.session = some current → c.status.isLive = true →
      started.reply = .error (.alreadyActive current.id) ∧ started.controller = c ∧ asked = []) ∧
    (id ≠ "" → (∀ current, c.session = some current → c.status.isLive = false) →
      asked = (c.session.map fun session => Engine.Call.stop session.id).toList ++
        [.start id credentials.secret] ∧
      (replies.start = .ok () → replies.spawn = .ok () →
        started.reply = .ok () ∧ started.controller.HasStarted id mode c.threads.size) ∧
      (∀ e, replies.start = .error e →
        started.reply = .error (if e.isLinkMissing then .linkMissing e else .startFailure e) ∧
        started.controller.HasFailed id mode) ∧
      (∀ reason, replies.start = .ok () → replies.spawn = .error reason →
        started.reply = .error (.spawn reason) ∧ started.controller.HasFailed id mode)) := by
  intro c started asked
  have horderly : c.Orderly := (orderly_new config surface).performAll earlier
  refine ⟨?_, ?_, ?_⟩
  · rintro rfl
    have hrefused : started = _ := c.start_of_empty credentials mode replies
    unfold asked
    rw [hrefused]
    exact ⟨rfl, rfl, rfl⟩
  · intro current hid hsession hlive
    have hrefused : started = _ := start_of_live hid hsession hlive credentials mode replies
    unfold asked
    rw [hrefused]
    exact ⟨rfl, rfl, rfl⟩
  · intro hid hfree
    obtain ⟨c', released, horderly', hnone, hsize, hreleased, hreply, hcontroller, hnoted⟩ :=
      horderly.start_of_free hid hfree credentials mode replies
    have hopened := horderly'.openSession hnone id credentials mode replies
    have hsilent := horderly'.silent.allSilent_of_none hnone
    refine ⟨?_, ?_, ?_, ?_⟩
    · unfold asked
      rw [show started.noted = _ from hnoted, Noted.engineCalls_append, hreleased,
        hsilent.engineCalls_openSession]
    · intro haccepted hspawned
      have hok := reply_openSession_of_accepted c' id credentials mode haccepted hspawned
      obtain ⟨hsession, ht⟩ := openSession_of_ok hok
      rw [show started.controller = _ from hcontroller, ← hsize]
      refine ⟨hreply.trans hok, hopened.hasStarted hsession ht ?_ rfl⟩
      rw [config_openSession]
    · intro e he
      obtain ⟨herror, hsession⟩ := c'.openSession_of_rejected id credentials mode he
      rw [show started.controller = _ from hcontroller]
      exact ⟨hreply.trans herror, hopened.hasFailed hsession⟩
    · intro reason haccepted hspawn
      obtain ⟨herror, hsession⟩ := c'.openSession_of_threadless id credentials mode haccepted hspawn
      rw [show started.controller = _ from hcontroller]
      exact ⟨hreply.trans herror, hopened.hasFailed hsession⟩

/-- A session dies, the next start releases it and is rejected, and a stop releases what is left of that
one; a start without an id in between is as nothing. -/
example :
    let lost : Engine.Answers := ⟨.error (.linkMissing "frame"), .ok 0, .ok 0, .untouched⟩
    let run := (new {} : Controller MemoryTarget).performAll
      [.start "7" {} .interactive {}, .event (.wake 0 lost),
        .start "8" {} .interactive { start := .error (.rejected "busy") }, .start "" {} .interactive {}]
    run.controller.status = .terminated ∧ (run.controller.stop {}).reply = .stopped ∧
      Noted.engineCalls (run.noted ++ (run.controller.stop {}).noted) =
        [.start "7" "", .size "7", .stop "7", .start "8" "", .stop "8"] := by
  decide

end DeskView.Controller
