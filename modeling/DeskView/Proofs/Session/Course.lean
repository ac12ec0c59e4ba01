import DeskView.Proofs.Session.Operations
import Mathlib.Data.List.Infix

/-!
# The course of a session

What is published about one session is a course: the beginning of one of three ways that a session can
go (`SessionStatus.ways`).  `Controller.Announced` says of a controller that everything it published is
one course after the other, one for each time that the engine was asked to open a session.

The status only ever moves forward within a course, so what has to be shown of an advance is little
(`Announced.advance`): that some session was announced, and that one which is still connecting is not
made terminating.
-/

namespace DeskView

namespace SessionStatus

/-- The ways that a session can go. -/
def ways : List (List SessionStatus) :=
  [[.connecting, .active, .terminating, .terminated],
    [.connecting, .terminated],
    [.connecting, .active, .terminated]]

/-- What can have been published about one session: a beginning of one of the ways, and not
nothing. -/
def IsCourse (course : List SessionStatus) : Prop := course ≠ [] ∧ ∃ way ∈ ways, course <+: way

instance (course : List SessionStatus) : Decidable (IsCourse course) :=
  inferInstanceAs (Decidable (_ ∧ _))

/-- There are not many courses, so that what is decided of each is known of all. -/
theorem IsCourse.mem_inits {course : List SessionStatus} (h : IsCourse course) :
    course ∈ (ways.flatMap List.inits).filter (· ≠ []) := by
  obtain ⟨hne, way, hway, hprefix⟩ := h
  rw [List.mem_filter, List.mem_flatMap]
  exact ⟨⟨way, hway, (List.mem_inits course way).mpr hprefix⟩, by simpa using hne⟩

/-- A course is strictly increasing. -/
theorem IsCourse.pairwise {course : List SessionStatus} (h : IsCourse course) :
    course.Pairwise (·.rank < ·.rank) := by
  have hall : ∀ course ∈ (ways.flatMap List.inits).filter (· ≠ []),
      course.Pairwise (·.rank < ·.rank) := by decide
  exact hall course h.mem_inits

/-- In the course of a session the status is not idle. -/
theorem IsCourse.getLast?_ne_idle {course : List SessionStatus} (h : IsCourse course) :
    course.getLast? ≠ some .idle := by
  have hall : ∀ course ∈ (ways.flatMap List.inits).filter (· ≠ []),
      course.getLast? ≠ some .idle := by decide
  exact hall course h.mem_inits

/-- A course goes on with every status that lies ahead, except that a session which is still connecting
does not become terminating. -/
theorem IsCourse.concat {course : List SessionStatus} (h : IsCourse course) {s next : SessionStatus}
    (hlast : course.getLast? = some s) (hahead : s.advances next = true)
    (hnext : s = .connecting → next ≠ .terminating) : IsCourse (course ++ [next]) := by
  have hall : ∀ course ∈ (ways.flatMap List.inits).filter (· ≠ []), ∀ s ∈ course.getLast?,
      s.advances next = true → (s = .connecting → next ≠ .terminating) →
      IsCourse (course ++ [next]) := by
    cases next <;> decide
  exact hall course h.mem_inits s hlast hahead hnext

end SessionStatus

namespace Controller

variable {T : Type}

/-- Everything that was published is one course after the other, one for each session that was
announced. -/
structure Announced (c : Controller T) : Prop where
  courses : ∃ courses : List (List SessionStatus), c.feed.published = courses.flatten ∧
    courses.length = c.epoch ∧ ∀ course ∈ courses, SessionStatus.IsCourse course
  current : c.status = c.feed.published.getLast?.getD .idle
  /-- A thread belongs to some session. -/
  epochs : c.EachEpoch (0 < ·)

theorem announced_new (config : PumpSettings) (surface : Surface T) :
    (new config surface).Announced where
  courses := ⟨[], rfl, rfl, fun _ h => absurd h List.not_mem_nil⟩
  current := rfl
  epochs _ _ h := by simp [new] at h

/-- Once a session was announced, the status is the last one of its course. -/
theorem Announced.last_course {c : Controller T} (h : c.Announced) (hpos : 0 < c.epoch) :
    ∃ (earlier : List (List SessionStatus)) (course : List SessionStatus),
      c.feed.published = (earlier ++ [course]).flatten ∧ earlier.length + 1 = c.epoch ∧
      (∀ course' ∈ earlier, SessionStatus.IsCourse course') ∧ SessionStatus.IsCourse course ∧
      course.getLast? = some c.status := by
  obtain ⟨courses, hpublished, hlength, hcourses⟩ := h.courses
  cases courses using List.reverseRecOn with
  | nil =>
    rw [List.length_nil] at hlength
    omega
  | append_singleton earlier course =>
    have hcourse := hcourses course (List.mem_append_right _ (List.mem_singleton_self _))
    refine ⟨earlier, course, hpublished, by simpa using hlength,
      fun course' hmem => hcourses course' (List.mem_append_left _ hmem), hcourse, ?_⟩
    have hlast : c.feed.published.getLast? = course.getLast? := by
      rw [hpublished, List.flatten_append, List.flatten_singleton,
        List.getLast?_append_of_ne_nil _ hcourse.1]
    rw [h.current, hlast, List.getLast?_eq_some_getLast hcourse.1, Option.getD_some]

/-- The status is idle until a session is announced. -/
theorem Announced.status_eq_idle_iff {c : Controller T} (h : c.Announced) :
    c.status = .idle ↔ c.epoch = 0 := by
  constructor
  · intro hidle
    by_cases hpos : 0 < c.epoch
    · obtain ⟨-, course, -, -, -, hcourse, hlast⟩ := h.last_course hpos
      rw [hidle] at hlast
      exact absurd hlast hcourse.getLast?_ne_idle
    · omega
  · intro hzero
    obtain ⟨courses, hpublished, hlength, -⟩ := h.courses
    rw [hzero, List.length_eq_zero_iff] at hlength
    rw [h.current, hpublished, hlength]
    rfl

/-- An advance goes on with the course of the last session. -/
theorem Announced.advance {c : Controller T} (h : c.Announced) (hpos : 0 < c.epoch)
    {next : SessionStatus} (hnext : c.status = .connecting → next ≠ .terminating) :
    (c.advance next).Announced := by
  unfold Controller.advance StatusFeed.advance
  split
  · rename_i hahead
    obtain ⟨earlier, course, hpublished, hlength, hearlier, hcourse, hlast⟩ := h.last_course hpos
    -- what is published belongs to the last course, the earlier ones stay
    refine ⟨⟨earlier ++ [course ++ [next]], ?_, by simpa using hlength, ?_⟩, ?_, h.epochs⟩
    · simp [StatusFeed.publish, hpublished]
    · intro course' hmem
      rcases List.mem_append.mp hmem with hmem | hmem
      · exact hearlier course' hmem
      · rw [List.mem_singleton.mp hmem]
        exact hcourse.concat hlast hahead hnext
    · simp [Controller.status, StatusFeed.publish]
  · exact h

/-- A session that is being opened begins a course. -/
theorem Announced.opening {c : Controller T} (h : c.Announced) : c.opening.Announced := by
  obtain ⟨courses, hpublished, hlength, hcourses⟩ := h.courses
  refine ⟨⟨courses ++ [[.connecting]], ?_, ?_, ?_⟩, ?_, h.epochs⟩
  · simp [Controller.opening, StatusFeed.publish, hpublished]
  · simp [Controller.opening, hlength]
  · intro course hmem
    rcases List.mem_append.mp hmem with hmem | hmem
    · exact hcourses course hmem
    · rw [List.mem_singleton.mp hmem]
      decide
  · simp [Controller.opening, Controller.status, StatusFeed.publish]

/-- A lost link goes on with the course of the last session or is not heard of, and nothing else that
happens beside the controller is announced. -/
theorem stable_announced : Stable fun c : Controller T => c.Announced where
  surface _ _ h := ⟨h.courses, h.current, h.epochs⟩
  move c k t t' h hthread _ hepoch := by
    have hpos : 0 < t'.epoch := hepoch ▸ h.epochs k t hthread
    have hset : (c.setThread k t').Announced :=
      ⟨h.courses, h.current, h.epochs.setThread hthread hepoch⟩
    unfold move hear
    split
    · rename_i hlost
      exact hset.advance (hlost.2 ▸ hpos) (fun _ => by simp)
    · exact hset
  tell c k t h hthread := ⟨h.courses, h.current, h.epochs.setThread hthread rfl⟩

end Controller

end DeskView
