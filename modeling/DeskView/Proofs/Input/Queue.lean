import DeskView.Input.Queue
import DeskView.Proofs.Effect
import Mathlib.Data.List.Induction

/-!
# What becomes of recorded events

A queue is used in two ways, to record an event and to flush (`InputQueue.Use`).  What becomes of an event
depends on nothing but what comes after it (`InputQueue.fate`): it is dropped if as many events as the
queue holds are recorded before the next flush; if there are fewer, that flush hands it to the engine, and
if no flush comes it is still pending.

That the queue does just this is shown by recursion on the uses (`use_spec`).  A queue that is not empty is
one in which its events have just been recorded, so the statement is about the waiting events followed by
the uses, and a use moves an event from the one to the other.
-/

namespace DeskView.InputQueue

/-- Something that is done with a queue. -/
inductive Use where
  /-- An event is recorded. -/
  | record (event : InputEvent)
  /-- The queue is flushed to the engine of a session. -/
  | flush (id : String) (injector : Option Injector)

/-- The event that is recorded, if one is. -/
def Use.event? : Use → Option InputEvent
  | .record e => some e
  | .flush _ _ => none

/-- What a sequence of uses comes to: the queue afterwards, what each flush answered, and what was
done. -/
structure Used where
  queue : InputQueue
  sent : List Nat
  effects : List Effect

/-- The uses, one after the other. -/
def use (q : InputQueue) : List Use → Used
  | [] => ⟨q, [], []⟩
  | .record e :: rest =>
    let later := (q.push e).use rest
    { later with effects := .log (logEvent e) :: later.effects }
  | .flush id injector :: rest =>
    let flushed := q.flush id injector
    let later := flushed.queue.use rest
    ⟨later.queue, flushed.sent :: later.sent, flushed.effects ++ later.effects⟩

/-! ### Fates -/

/-- What becomes of an event. -/
inductive Fate where
  /-- It was forgotten for a later one. -/
  | dropped
  /-- It still waits. -/
  | pending
  /-- It was handed over for a session, to an engine that takes events or does not. -/
  | handed (id : String) (accepts : Bool)
deriving DecidableEq

/-- The call in which an event of this fate is handed to the engine. -/
def Fate.call? (f : Fate) (e : InputEvent) : Option Engine.Call :=
  match f with
  | .handed id true => some (.inject id e.encode)
  | _ => none

/-- The events that are recorded before the next flush. -/
def untilFlush : List Use → List InputEvent
  | .record e :: rest => e :: untilFlush rest
  | _ => []

/-- The events that were recorded after the last flush. -/
def sinceFlush (uses : List Use) : List InputEvent := (untilFlush uses.reverse).reverse

/-- What the next flush does with an event, if there is a next flush. -/
def nextFlush : List Use → Fate
  | [] => .pending
  | .record _ :: rest => nextFlush rest
  | .flush id injector :: _ => .handed id injector.isSome

/-- What becomes of an event, by all that comes after it. -/
def fate (capacity : Nat) (later : List Use) : Fate :=
  if capacity ≤ (untilFlush later).length then .dropped else nextFlush later

/-- The recorded events in order of arrival, each with what becomes of it. -/
def fates (capacity : Nat) : List Use → List (InputEvent × Fate)
  | [] => []
  | .record e :: rest => (e, fate capacity rest) :: fates capacity rest
  | .flush _ _ :: rest => fates capacity rest

theorem map_fst_fates (capacity : Nat) (uses : List Use) :
    (fates capacity uses).map Prod.fst = uses.filterMap Use.event? := by
  induction uses with
  | nil => rfl
  | cons u rest ih =>
    cases u with
    | record e => exact congrArg (e :: ·) ih
    | flush id injector => exact ih

theorem untilFlush_record_append (es : List InputEvent) (uses : List Use) :
    untilFlush (es.map .record ++ uses) = es ++ untilFlush uses := by
  induction es with
  | nil => rfl
  | cons e es ih => exact congrArg (e :: ·) ih

theorem nextFlush_record_append (es : List InputEvent) (uses : List Use) :
    nextFlush (es.map .record ++ uses) = nextFlush uses := by
  induction es with
  | nil => rfl
  | cons e es ih => exact ih

/-- If no more events are to come than the queue holds, none is dropped. -/
theorem fates_record_append {capacity : Nat} {es : List InputEvent} (h : es.length ≤ capacity)
    (uses : List Use) (huses : untilFlush uses = []) {f : Fate} (hf : nextFlush uses = f) :
    fates capacity (es.map .record ++ uses) = es.map (fun e => (e, f)) ++ fates capacity uses := by
  induction es with
  | nil => rfl
  | cons e es ih =>
    rw [List.length_cons] at h
    have hfate : fate capacity (es.map .record ++ uses) = f := by
      unfold fate
      rw [untilFlush_record_append, huses, List.append_nil, nextFlush_record_append, hf]
      exact if_neg (by omega)
    have hrest := ih (by omega)
    exact congrArg₂ List.cons (congrArg (Prod.mk e) hfate) hrest

/-- Events that all have one fate. -/
theorem tally_of_fate (es : List InputEvent) (f : Fate) :
    let fates := es.map fun e => (e, f)
    fates.filterMap (fun x => x.2.call? x.1) = es.filterMap f.call? ∧
      (fates.filter (·.2 = .pending)).map Prod.fst = (if f = .pending then es else []) ∧
      fates.countP (·.2 = .dropped) = if f = .dropped then es.length else 0 := by
  induction es with
  | nil => simp
  | cons e es ih =>
    obtain ⟨hcalls, hpending, hdropped⟩ := ih
    refine ⟨?_, ?_, ?_⟩
    · rw [List.map_cons, List.filterMap_cons, List.filterMap_cons, hcalls]
    · rw [List.map_cons, List.filter_cons]
      by_cases hf : f = .pending
      · simpa [hf] using hpending
      · simp [hf]
    · rw [List.map_cons, List.countP_cons, hdropped]
      by_cases hf : f = .dropped <;> simp [hf]

theorem filterMap_handed (id : String) (accepts : Bool) (es : List InputEvent) :
    es.filterMap (Fate.handed id accepts).call? =
      if accepts then es.map (fun e => .inject id e.encode) else [] := by
  cases accepts with
  | true => exact congrFun List.filterMap_eq_map es
  | false => exact List.filterMap_eq_nil_iff.mpr fun _ _ => rfl

/-! ### Flushing -/

theorem engineCalls_deliver (id : String) (accepts : Bool)
    (answered : List (InputEvent × Except EngineError Unit)) :
    Effect.engineCalls (answered.flatMap fun (e, result) => deliver id accepts e result) =
      (answered.map Prod.fst).filterMap (Fate.handed id accepts).call? := by
  induction answered with
  | nil => rfl
  | cons first rest ih =>
    obtain ⟨e, result⟩ := first
    rw [List.flatMap_cons, Effect.engineCalls_append, ih]
    cases accepts <;> cases result <;> rfl

/-- A flush hands over the events that wait, each once and in their order. -/
theorem engineCalls_flush (q : InputQueue) (id : String) (injector : Option Injector) :
    Effect.engineCalls (q.flush id injector).effects =
      q.events.filterMap (Fate.handed id injector.isSome).call? := by
  have hevents : (q.events.mapIdx fun n e => (e, answer injector n)).map Prod.fst = q.events := by
    apply List.ext_getElem <;> simp
  unfold flush
  dsimp only
  rw [engineCalls_deliver, hevents]

/-- A flush answers how many of its calls succeeded. -/
theorem sent_flush (q : InputQueue) (id : String) (injector : Option Injector) :
    (q.flush id injector).sent =
      (List.range q.events.length).countP fun n => (answer injector n).isOk := by
  have hanswers : (q.events.mapIdx fun n e => (e, answer injector n)).map Prod.snd =
      (List.range q.events.length).map (answer injector) := by
    apply List.ext_getElem <;> simp
  have hcount : ∀ answered : List (InputEvent × Except EngineError Unit),
      answered.countP (fun (_, result) => result.isOk) =
        (answered.map Prod.snd).countP fun result => result.isOk := by
    intro answered
    rw [List.countP_map]
    rfl
  unfold flush
  dsimp only
  rw [hcount, hanswers, List.countP_map]
  rfl

/-! ### The whole run -/

theorem use_append (q : InputQueue) (xs ys : List Use) :
    q.use (xs ++ ys) =
      let first := q.use xs
      let later := first.queue.use ys
      ⟨later.queue, first.sent ++ later.sent, first.effects ++ later.effects⟩ := by
  induction xs generalizing q with
  | nil => rfl
  | cons u rest ih =>
    cases u with
    | record e =>
      rw [List.cons_append, use, ih]
      rfl
    | flush id injector =>
      rw [List.cons_append, use, ih]
      simp only [use, List.cons_append, List.append_assoc]

theorem map_record_append (es : List InputEvent) (e : InputEvent) (rest : List Use) :
    es.map .record ++ .record e :: rest = (es ++ [e]).map .record ++ rest := by
  rw [List.map_append, List.append_assoc]
  rfl

/-- Let some events wait, and let the queue be used after that.  The waiting events are treated as if they
had been recorded first of all. -/
theorem use_spec {capacity : Nat} (hcapacity : 0 < capacity) (uses : List Use) (es : List InputEvent)
    (hes : es.length ≤ capacity) (d : Nat) :
    let done := use ⟨es, capacity, d⟩ uses
    let fates := fates capacity (es.map .record ++ uses)
    Effect.engineCalls done.effects = fates.filterMap (fun x => x.2.call? x.1) ∧
      done.queue.events = (fates.filter (·.2 = .pending)).map Prod.fst ∧
      done.queue.dropped = d + fates.countP (·.2 = .dropped) := by
  induction uses generalizing es d with
  | nil =>
    -- nothing comes after the waiting events, so they are pending
    obtain ⟨hcalls, hpending, hdropped⟩ := tally_of_fate es .pending
    rw [fates_record_append hes [] rfl (f := .pending) rfl, fates, List.append_nil]
    refine ⟨?_, hpending.symm, congrArg (d + ·) hdropped.symm⟩
    rw [hcalls]
    exact (List.filterMap_eq_nil_iff.mpr fun _ _ => rfl).symm
  | cons u rest ih =>
    cases u with
    | record e =>
      rw [map_record_append]
      by_cases hfull : es.length = capacity
      · -- the queue is full, and as many events follow the oldest one
        obtain ⟨oldest, es, rfl⟩ : ∃ oldest es', es = oldest :: es' :=
          List.exists_cons_of_length_pos (by omega)
        rw [List.length_cons] at hfull
        have hpush : push ⟨oldest :: es, capacity, d⟩ e = ⟨es ++ [e], capacity, d + 1⟩ := by
          unfold push
          exact if_pos hfull
        have hfate : fate capacity ((es ++ [e]).map .record ++ rest) = .dropped := by
          unfold fate
          rw [untilFlush_record_append]
          exact if_pos (by simp only [List.length_append, List.length_singleton]; omega)
        have hfates : fates capacity (((oldest :: es) ++ [e]).map .record ++ rest) =
            (oldest, .dropped) :: fates capacity ((es ++ [e]).map .record ++ rest) :=
          congrArg (fun f => (oldest, f) :: _) hfate
        obtain ⟨hcalls, hevents, hdropped⟩ := ih (es ++ [e]) (by simp; omega) (d + 1)
        unfold use
        rw [hpush, hfates]
        refine ⟨hcalls, hevents, hdropped.trans ?_⟩
        rw [List.countP_cons_of_pos (by simp)]
        omega
      · have hpush : push ⟨es, capacity, d⟩ e = ⟨es ++ [e], capacity, d⟩ := by
          unfold push
          exact if_neg hfull
        obtain ⟨hcalls, hevents, hdropped⟩ := ih (es ++ [e]) (by simp; omega) d
        unfold use
        rw [hpush]
        exact ⟨hcalls, hevents, hdropped⟩
    | flush id injector =>
      -- the waiting events are handed over, and the queue goes on empty
      obtain ⟨hcalls, hevents, hdropped⟩ := ih [] (Nat.zero_le _) d
      obtain ⟨hhanded, hpending, hlost⟩ := tally_of_fate es (.handed id injector.isSome)
      rw [if_neg (by simp)] at hpending hlost
      rw [fates_record_append hes (.flush id injector :: rest) rfl
        (f := .handed id injector.isSome) rfl]
      refine ⟨?_, ?_, ?_⟩
      · rw [List.filterMap_append, hhanded, use, Effect.engineCalls_append, engineCalls_flush]
        exact congrArg _ hcalls
      · rw [List.filter_append, List.map_append, hpending]
        exact hevents
      · rw [List.countP_append, hlost, Nat.zero_add]
        exact hdropped

/-! ### What waits -/

/-- The queue holds the latest of some events, as many as it can. -/
structure HoldsLatest (q : InputQueue) (recent : List InputEvent) : Prop where
  latest : q.events <:+ recent
  length : q.events.length = min recent.length q.capacity

theorem HoldsLatest.push {q : InputQueue} {recent : List InputEvent} (h : q.HoldsLatest recent)
    (hcapacity : 0 < q.capacity) (e : InputEvent) : (q.push e).HoldsLatest (recent ++ [e]) := by
  have hlength := h.length
  unfold InputQueue.push
  split
  · -- the oldest event makes room, and what is left is still the latest
    rename_i hfull
    constructor
    · have htail : q.events.tail <:+ recent := (List.tail_suffix q.events).trans h.latest
      exact List.suffix_append_self_iff.mpr htail
    · simp only [List.length_append, List.length_tail, List.length_singleton]
      omega
  · rename_i hroom
    constructor
    · exact List.suffix_append_self_iff.mpr h.latest
    · simp only [List.length_append, List.length_singleton]
      omega

theorem capacity_push (q : InputQueue) (e : InputEvent) : (q.push e).capacity = q.capacity := by
  unfold push
  split <;> rfl

theorem capacity_use (q : InputQueue) (uses : List Use) : (q.use uses).queue.capacity = q.capacity := by
  induction uses generalizing q with
  | nil => rfl
  | cons u rest ih =>
    cases u with
    | record e => exact (ih (q.push e)).trans (q.capacity_push e)
    | flush id injector => exact ih _

/-- The events that wait are the latest since the last flush. -/
theorem holdsLatest_use {capacity : Nat} (hcapacity : 0 < capacity) (uses : List Use) :
    (use { capacity } uses).queue.HoldsLatest (sinceFlush uses) := by
  induction uses using List.reverseRecOn with
  | nil => exact ⟨List.suffix_rfl, (Nat.zero_min _).symm⟩
  | append_singleton uses u ih =>
    rw [use_append]
    cases u with
    | record e =>
      have hsince : sinceFlush (uses ++ [.record e]) = sinceFlush uses ++ [e] := by
        simp [sinceFlush, untilFlush]
      have hroom : 0 < (use { capacity } uses).queue.capacity := by
        rw [capacity_use]
        exact hcapacity
      rw [hsince]
      exact ih.push hroom e
    | flush id injector =>
      have hsince : sinceFlush (uses ++ [.flush id injector]) = [] := by
        simp [sinceFlush, untilFlush]
      rw [hsince]
      exact ⟨List.suffix_rfl, (Nat.zero_min _).symm⟩

/-- **A queue loses only the oldest events, and never reorders or duplicates one.**  Let a queue for any
number of events be used in any way.

* Each event that was recorded has one fate, which is determined by what came after it.
* The engine was called with the events that were followed by fewer others than the queue holds before
  the next flush, each once and in order of arrival, unless that flush was to an engine without an
  injector.
* The events that wait are those that no flush has followed yet, the latest that the queue can hold.
* All others are counted as dropped.
* Another flush leaves nothing waiting, hands over what did, and answers how many of its calls
  succeeded. -/
theorem loses_only_the_oldest (capacity : Nat) (uses : List Use) :
    let done := (new capacity).use uses
    let fates := fates (max capacity 1) uses
    let recent := sinceFlush uses
    fates.map Prod.fst = uses.filterMap Use.event? ∧
    Effect.engineCalls done.effects = fates.filterMap (fun x => x.2.call? x.1) ∧
    done.queue.events = (fates.filter (·.2 = .pending)).map Prod.fst ∧
    done.queue.events <:+ recent ∧
    done.queue.events.length = min recent.length (max capacity 1) ∧
    done.queue.dropped = fates.countP (·.2 = .dropped) ∧
    ∀ id injector,
      let flushed := (new capacity).use (uses ++ [.flush id injector])
      flushed.queue.events = [] ∧ flushed.queue.dropped = done.queue.dropped ∧
      Effect.engineCalls flushed.effects = Effect.engineCalls done.effects ++
        (if injector.isSome then done.queue.events.map (.inject id ·.encode) else []) ∧
      flushed.sent = done.sent ++
        [(List.range done.queue.events.length).countP fun n => (answer injector n).isOk] := by
  intro done fates recent
  have hcapacity : 0 < max capacity 1 := by omega
  obtain ⟨hcalls, hevents, hdropped⟩ := use_spec hcapacity uses [] (Nat.zero_le _) 0
  have hlatest := holdsLatest_use hcapacity uses
  have hsame : done.queue.capacity = max capacity 1 := capacity_use _ uses
  rw [Nat.zero_add] at hdropped
  refine ⟨map_fst_fates _ uses, hcalls, hevents, hlatest.latest, hsame ▸ hlatest.length, hdropped,
    fun id injector => ?_⟩
  have hflush := use_append (new capacity) uses [.flush id injector]
  dsimp only
  rw [hflush]
  refine ⟨rfl, rfl, ?_, ?_⟩
  · rw [Effect.engineCalls_append]
    refine congrArg (_ ++ ·) ?_
    have hhanded := engineCalls_flush done.queue id injector
    rw [filterMap_handed] at hhanded
    rw [← hhanded]
    exact congrArg Effect.engineCalls (List.append_nil _)
  · refine congrArg (_ ++ ·) ?_
    exact congrArg (· :: []) (sent_flush done.queue id injector)

end DeskView.InputQueue
