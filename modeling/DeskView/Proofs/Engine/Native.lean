import DeskView.Engine.Native
import DeskView.Proofs.Pump.Exit
import DeskView.Proofs.Pump.Stages

/-!
# The native engine damages no argument

A foreign function reads a text up to the first zero and takes a display as a signed word.  So an
engine call can be passed on unchanged if no text has a NUL and the display fits
(`Engine.Call.IsPassable`), and what is refused is exactly the rest (`Engine.Native.passes_foreign`).
A call that is passed on is made once, with the arguments it was given (`Engine.ForeignCall.Conveys`),
and its code is all that decides the result (`Engine.Call.ComesTo`).

The engine that is linked is never missing, whatever its functions answer, so a loop that ends with a
lost link lost it to a target (`Engine.Native.linked_engine_damages_no_argument`).
-/

namespace DeskView

theorem Outcome.ofExcept_eq_error_iff {ε α : Type} {x : Except ε α} {e : ε} :
    Outcome.ofExcept x = .error e ↔ x = .error e := by
  cases x <;> simp [ofExcept]

namespace Engine

/-! ### What can be passed on -/

namespace Call

/-- The texts among the arguments. -/
def texts : Call → List String
  | .init => []
  | .start id password => [id, password]
  | .stop id | .size id | .width id | .height id => [id]
  | .fetch id _ _ => [id]
  | .inject id _ => [id]

/-- The display among the arguments. -/
def display? : Call → Option UInt32
  | .fetch _ display _ => some display
  | _ => none

/-- Whether the call asks for a number. -/
def isQuery : Call → Bool
  | .size _ | .width _ | .height _ => true
  | _ => false

/-- Whether the call orders something that can fail. -/
def isOrder : Call → Bool
  | .start _ _ | .stop _ | .fetch _ _ _ | .inject _ _ => true
  | _ => false

/-- The arguments can be passed on unchanged: no text has a NUL, and a signed word holds the display. -/
structure IsPassable (call : Call) : Prop where
  texts : ∀ s ∈ call.texts, '\x00' ∉ s.toList
  display : ∀ display ∈ call.display?, display.toNat ≤ 2 ^ 31 - 1

/-- The reason for which a call is refused: that a text has a NUL, which is found first, or that the
display is too large. -/
inductive RefusedFor (call : Call) : String → Prop
  | text {s : String} (mem : s ∈ call.texts) (nul : '\x00' ∈ s.toList) :
      RefusedFor call "string contains NUL"
  | display {display : UInt32} (texts : ∀ s ∈ call.texts, '\x00' ∉ s.toList)
      (mem : display ∈ call.display?) (large : 2 ^ 31 - 1 < display.toNat) :
      RefusedFor call ("display " ++ toString display ++ " out of range")

theorem RefusedFor.not_isPassable {call : Call} {reason : String} (h : call.RefusedFor reason) :
    ¬ call.IsPassable := by
  intro hpassable
  cases h with
  | text mem nul => exact hpassable.texts _ mem nul
  | display _ mem large => exact absurd (hpassable.display _ mem) (not_le.mpr large)

/-- What a call comes to whose function answered `code`.  A query answers the code itself, of any sign.
Of an order zero is the success; any other code is a failure of the fetch and a refusal of the rest. -/
structure ComesTo (call : Call) (code : Int32) (result : Except EngineError NativeValue) : Prop where
  init : call = .init → result = .ok .done
  query : call.isQuery = true → result = .ok (.number code)
  success : call.isOrder = true → (result = .ok .done ↔ code = 0)
  failed : call.isFetch = true → code ≠ 0 →
    result = .error (.failed (Native.symbol call ++ " returned " ++ toString code))
  rejected : call.isOrder = true → call.isFetch = false → code ≠ 0 →
    result = .error (.rejected (Native.symbol call ++ " returned " ++ toString code))

end Call

/-- A foreign call has the function and the arguments of an engine call: each text is read as the one
that was given, and all else is the same. -/
inductive ForeignCall.Conveys : ForeignCall → Call → Prop
  | init : Conveys .init .init
  | start {id' password' : Text.Terminated} {id password : String} (id_reads : id'.Reads id)
      (password_reads : password'.Reads password) : Conveys (.start id' password') (.start id password)
  | stop {id' : Text.Terminated} {id : String} (id_reads : id'.Reads id) : Conveys (.stop id') (.stop id)
  | size {id' : Text.Terminated} {id : String} (id_reads : id'.Reads id) : Conveys (.size id') (.size id)
  | width {id' : Text.Terminated} {id : String} (id_reads : id'.Reads id) :
      Conveys (.width id') (.width id)
  | height {id' : Text.Terminated} {id : String} (id_reads : id'.Reads id) :
      Conveys (.height id') (.height id)
  | fetch {id' : Text.Terminated} {id : String} {display' : Int32} {display : UInt32} {length : Nat}
      (id_reads : id'.Reads id) (display_eq : display'.toInt = display.toNat) :
      Conveys (.fetch id' display' length) (.fetch id display length)
  | inject {id' : Text.Terminated} {id : String} {payload : List UInt8} (id_reads : id'.Reads id) :
      Conveys (.inject id' payload) (.inject id payload)

namespace Native

/-- A check let something good through, or refused it for a reason. -/
inductive Checked {α : Type} (good : α → Prop) (refused : String → Prop) : Except EngineError α → Prop
  | ok {a : α} (h : good a) : Checked good refused (.ok a)
  | error {reason : String} (h : refused reason) : Checked good refused (.error (.rejected reason))

/-- One check after another: the first one that refuses is heard. -/
theorem Checked.bind {α β : Type} {good : α → Prop} {good' : β → Prop} {refused refused' : String → Prop}
    {x : Except EngineError α} {f : α → Except EngineError β} (h : Checked good refused x)
    (hrefused : ∀ reason, refused reason → refused' reason)
    (hgood : ∀ a, good a → Checked good' refused' (f a)) : Checked good' refused' (x >>= f) := by
  cases h with
  | ok h => exact hgood _ h
  | error h => exact .error (hrefused _ h)

/-- A text gets through exactly if it has no NUL, and then it is read as it was given. -/
theorem checked_passable (s : String) :
    Checked (fun t : Text.Terminated => '\x00' ∉ s.toList ∧ t.Reads s)
      (fun reason => reason = "string contains NUL" ∧ '\x00' ∈ s.toList) (passable s) := by
  unfold passable
  split
  · rename_i t ht
    refine .ok ⟨fun hnul => ?_, Text.Terminated.reads_of_ofString? ht⟩
    rw [Text.Terminated.ofString?_eq_none_iff.mpr hnul] at ht
    cases ht
  · exact .error ⟨rfl, Text.Terminated.ofString?_eq_none_iff.mp ‹_›⟩

/-- A display gets through exactly if a signed word holds it, and then as the same number. -/
theorem checked_passableDisplay (display : UInt32) :
    Checked (fun display' : Int32 => display.toNat ≤ 2 ^ 31 - 1 ∧ display'.toInt = display.toNat)
      (fun reason => reason = "display " ++ toString display ++ " out of range" ∧
        2 ^ 31 - 1 < display.toNat) (passableDisplay display) := by
  -- read with a sign, a word is negative exactly from half of all words on
  have hword : display.toInt32.toInt =
      if 2 * display.toNat < 2 ^ 32 then (display.toNat : Int) else display.toNat - 2 ^ 32 :=
    BitVec.toInt_eq_toNat_cond display.toBitVec
  have hlt : display.toNat < 2 ^ 32 := display.toNat_lt
  have hsign : 0 ≤ display.toInt32 ↔ 0 ≤ display.toInt32.toInt := Int32.le_iff_toInt_le
  unfold passableDisplay
  by_cases hfits : 2 * display.toNat < 2 ^ 32
  · rw [if_pos hfits] at hword
    rw [if_pos (hsign.mpr (by omega))]
    exact .ok ⟨by omega, hword⟩
  · rw [if_neg hfits] at hword
    rw [if_neg (hsign.not.mpr (by omega))]
    exact .error ⟨rfl, by omega⟩

/-- A call gets through exactly if it can be passed on unchanged, and then it is. -/
def IsChecked (call : Call) (passed : Except EngineError ForeignCall) : Prop :=
  Checked (fun made => call.IsPassable ∧ made.Conveys call) call.RefusedFor passed

/-- A call with one text and no display is checked by its text. -/
theorem isChecked_of_text {call : Call} {id : String} {f : Text.Terminated → ForeignCall}
    (htexts : call.texts = [id]) (hdisplay : call.display? = none)
    (hconveys : ∀ t : Text.Terminated, t.Reads id → (f t).Conveys call) :
    IsChecked call (do return f (← passable id)) := by
  refine (checked_passable id).bind ?_ ?_
  · rintro reason ⟨rfl, hnul⟩
    exact .text (htexts ▸ List.mem_singleton_self id) hnul
  · rintro t ⟨hclean, hreads⟩
    exact .ok ⟨⟨by simpa [htexts] using hclean, by simp [hdisplay]⟩, hconveys t hreads⟩

theorem isChecked_foreign (call : Call) : IsChecked call (foreign call) := by
  cases call with
  | init => exact .ok ⟨⟨by simp [Call.texts], by simp [Call.display?]⟩, .init⟩
  | start id password =>
    -- the password is looked at only if the id is fine, but both are refused for the same reason
    refine (checked_passable id).bind ?_ ?_
    · rintro reason ⟨rfl, hnul⟩
      exact .text (s := id) (by simp [Call.texts]) hnul
    · rintro t ⟨hclean, hreads⟩
      refine (checked_passable password).bind ?_ ?_
      · rintro reason ⟨rfl, hnul⟩
        exact .text (s := password) (by simp [Call.texts]) hnul
      · rintro t' ⟨hclean', hreads'⟩
        refine .ok ⟨⟨?_, by simp [Call.display?]⟩, .start hreads hreads'⟩
        simpa [Call.texts] using ⟨hclean, hclean'⟩
  | stop id => exact isChecked_of_text rfl rfl fun _ => .stop
  | size id => exact isChecked_of_text rfl rfl fun _ => .size
  | width id => exact isChecked_of_text rfl rfl fun _ => .width
  | height id => exact isChecked_of_text rfl rfl fun _ => .height
  | fetch id display length =>
    -- the display is looked at last, so it is what is wrong only if the id is fine
    refine (checked_passable id).bind ?_ ?_
    · rintro reason ⟨rfl, hnul⟩
      exact .text (List.mem_singleton_self id) hnul
    · rintro t ⟨hclean, hreads⟩
      have htexts : ∀ s ∈ (Call.fetch id display length).texts, '\x00' ∉ s.toList := by
        simpa [Call.texts] using hclean
      refine (checked_passableDisplay display).bind ?_ ?_
      · rintro reason ⟨rfl, hlarge⟩
        exact .display htexts rfl hlarge
      · rintro display' ⟨hsmall, heq⟩
        exact .ok ⟨⟨htexts, by simpa [Call.display?] using hsmall⟩, .fetch hreads heq⟩
  | inject id payload => exact isChecked_of_text rfl rfl fun _ => .inject

/-! ### What the code means -/

theorem comesTo_interpret (call : Call) (code : Int32) : call.ComesTo code (interpret call code) := by
  cases call <;> constructor <;>
    simp +contextual [interpret, check, Call.isQuery, Call.isOrder, Call.isFetch]

/-- No code means that the engine is missing. -/
theorem isLinkMissing_of_interpret {call : Call} {code : Int32} {e : EngineError}
    (h : interpret call code = .error e) : e.isLinkMissing = false := by
  cases call <;> grind [interpret, check, EngineError.isLinkMissing]

/-! ### A linked engine -/

variable (library : Library) (call : Call) (buffer : Array UInt8)

/-- A linked engine passes a call on once, or refuses it. -/
theorem perform_linked_cases :
    (∃ made : ForeignCall, call.IsPassable ∧ made.Conveys call ∧
      perform (.linked library) call buffer =
        ⟨interpret call (library.code made), [made], written library made buffer⟩) ∨
    (∃ reason, call.RefusedFor reason ∧
      perform (.linked library) call buffer = ⟨.error (.rejected reason), [], buffer⟩) := by
  have hchecked := isChecked_foreign call
  unfold perform
  generalize foreign call = passed at hchecked ⊢
  cases hchecked with
  | ok h => exact .inl ⟨_, h.1, h.2, rfl⟩
  | error h => exact .inr ⟨_, h, rfl⟩

variable {library call buffer}

/-- A linked engine is not missing. -/
theorem isLinkMissing_of_perform {e : EngineError}
    (h : (perform (.linked library) call buffer).result = .error e) : e.isLinkMissing = false := by
  rcases perform_linked_cases library call buffer with ⟨made, -, -, hdone⟩ | ⟨reason, -, hdone⟩
  · rw [hdone] at h
    exact isLinkMissing_of_interpret h
  · rw [hdone] at h
    cases h
    rfl

/-- What becomes of its value does not matter to how a call fails. -/
theorem isLinkMissing_of_map {α : Type} {f : NativeValue → α} {e : EngineError}
    (h : (perform (.linked library) call buffer).result.map f = .error e) : e.isLinkMissing = false := by
  cases hresult : (perform (.linked library) call buffer).result with
  | ok value =>
    rw [hresult] at h
    cases h
  | error e' =>
    rw [hresult] at h
    cases h
    exact isLinkMissing_of_perform hresult

/-- What a linked engine answers to a tick never loses the link. -/
theorem not_failsWith_linkLost (id : String) (display : UInt32) (format : PixelFormat) (e : EngineError) :
    ¬ ((Native.linked library).answers id display).FailsWith format (.linkLost e) := by
  intro h
  cases h with
  | lostAsking failed missing =>
    have hthere : e.isLinkMissing = false := by
      rcases Answers.failed_of_queryError? failed with hsize | hwidth | hheight
      · exact isLinkMissing_of_map hsize
      · exact isLinkMissing_of_map hwidth
      · exact isLinkMissing_of_map hheight
    rw [hthere] at missing
    cases missing
  | lostFetching offers failed missing =>
    have hthere : e.isLinkMissing = false := isLinkMissing_of_map (Outcome.ofExcept_eq_error_iff.mp failed)
    rw [hthere] at missing
    cases missing

end Native

end Engine

/-! ### A pump on a linked engine -/

/-- If no answers lose the link, a loop that ends with a lost link heard of it from its target. -/
theorem Pump.returned_of_linkLost {T : Type} [Drawable T] {p : Pump} (hp : p.frames.Sound)
    {surface : Surface T} {period deadline : Nat} {answers : Nat → Engine.Answers}
    (hanswers : ∀ k format e, ¬ (answers k).FailsWith format (.linkLost e))
    {schedule : List (Scheduled T)} {e : EngineError}
    (hlost : (p.run surface period deadline answers schedule).exit = some (.linkLost e)) :
    ∃ (s : Surface T) (made : List (Nat × TargetCall)), s.Returned made (.error (.linkLost e)) ∧
      made <:+: Effect.targetCalls (p.run surface period deadline answers schedule).scene.effects := by
  obtain ⟨j, woken, hsound, htick, later, heffects⟩ := Scene.exists_tick_of_linkLost _ 0 hp hlost
  have hreturned := ((Pump.outcome_tick_eq_error_iff hsound woken.surface (answers j) _).mp
    htick).resolve_left (hanswers j _ e)
  refine ⟨woken.surface, _, hreturned, Effect.targetCalls woken.effects, Effect.targetCalls later, ?_⟩
  -- the calls of that tick stand between what was done before it and what came later
  have hcalls := congrArg Effect.targetCalls heffects
  rw [Effect.targetCalls_append] at hcalls
  rw [Pump.run, ← hcalls, Scene.tick, Scene.note, Effect.targetCalls_append]

/-- **A linked engine damages no argument.**  Whatever the functions of the library answer:

* a call that can be passed on unchanged is made, once and with the arguments it was given, and what it
  comes to is what its code says;
* any other call is refused for what is wrong with it, and no function is called;
* no call finds the engine missing.

So a pump whose engine is linked at every tick loses the link only to the bound target: where its loop
ends with a lost link, that is what the target returned to the last of some calls that were made on it. -/
theorem Engine.Native.linked_engine_damages_no_argument (library : Library) (call : Call)
    (buffer : Array UInt8) :
    let done := (Native.linked library).perform call buffer
    (call.IsPassable → ∃ made : ForeignCall, done.foreign = [made] ∧ made.Conveys call ∧
      call.ComesTo (library.code made) done.result) ∧
    (¬ call.IsPassable → ∃ reason, call.RefusedFor reason ∧ done.result = .error (.rejected reason) ∧
      done.foreign = [] ∧ done.buffer = buffer) ∧
    (∀ symbol, done.result ≠ .error (.linkMissing symbol)) ∧
    ∀ {T : Type} [Drawable T] (session : String) (config : PumpSettings) (surface : Surface T)
      (period deadline : Nat) (libraries : Nat → Library) (schedule : List (Scheduled T))
      (e : EngineError),
      let run := (Pump.new session config).run surface period deadline
        (fun k => (Native.linked (libraries k)).answers session config.display) schedule
      run.exit = some (.linkLost e) →
        ∃ (s : Surface T) (made : List (Nat × TargetCall)),
          s.Returned made (.error (.linkLost e)) ∧ made <:+: Effect.targetCalls run.scene.effects := by
  intro done
  refine ⟨fun hpassable => ?_, fun hnot => ?_, fun symbol hmissing => ?_, ?_⟩
  · rcases perform_linked_cases library call buffer with ⟨made, -, hconveys, hdone⟩ | ⟨reason, hrefused, -⟩
    · refine ⟨made, congrArg NativeCall.foreign hdone, hconveys, ?_⟩
      rw [show done.result = _ from congrArg NativeCall.result hdone]
      exact comesTo_interpret call (library.code made)
    · exact absurd hpassable hrefused.not_isPassable
  · rcases perform_linked_cases library call buffer with ⟨made, hpassable, -⟩ | ⟨reason, hrefused, hdone⟩
    · exact absurd hpassable hnot
    · exact ⟨reason, hrefused, congrArg NativeCall.result hdone, congrArg NativeCall.foreign hdone,
        congrArg NativeCall.buffer hdone⟩
  · cases isLinkMissing_of_perform hmissing
  · intro T _ session config surface period deadline libraries schedule e run hlost
    exact Pump.returned_of_linkLost (FrameBuffer.sound_new config.format)
      (fun k format e => not_failsWith_linkLost session config.display format e) hlost

end DeskView
