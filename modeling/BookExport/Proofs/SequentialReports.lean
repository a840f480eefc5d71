import BookExport.Proofs.JobPlacement

/-! What reports lead to when they are recorded one after the other and nothing comes between them. A noted request to
cancel changes nothing that a later event keeps, so that the reference does not have to know of it. -/

namespace BookExport.Proofs.SequentialReports
open ServiceDeeds JobPlacement

def recordAll (t : Tracker) (id : JobId) : List (ProgressUpdate × Timestamp) → Outcome Tracker Unit
  | [] => ⟨t, (), []⟩
  | (update, now) :: rest =>
    let first := t.record id (.progress update) now
    let later := recordAll first.state id rest
    ⟨later.state, (), first.published ++ later.published⟩

theorem recordAll_snoc (t : Tracker) (id : JobId) (reports : List (ProgressUpdate × Timestamp))
    (update : ProgressUpdate) (now : Timestamp) :
    let before := recordAll t id reports
    let last := before.state.record id (.progress update) now
    recordAll t id (reports ++ [(update, now)]) = ⟨last.state, (), before.published ++ last.published⟩ := by
  induction reports generalizing t with
  | nil => simp [recordAll]
  | cons first rest ih => simp only [List.cons_append, recordAll, ih, List.append_assoc]

/-- A job that has started and can go on. -/
structure Open (job : Job) (s : Snapshot) : Prop where
  about : s.jobId = job.id
  active : s.status.isActive = true
  untitled : s.title = none

theorem open_starting (job : Job) (now : Timestamp) : Open job (.starting job now) := ⟨rfl, rfl, rfl⟩

theorem Open.report {job : Job} {s : Snapshot} (isOpen : Open job s) {update : ProgressUpdate}
    (accepted : s.accepts (.progress update) = true) (now : Timestamp) : Open job (s.after (.progress update) now) := by
  simp only [Snapshot.accepts, Bool.and_eq_true] at accepted
  exact ⟨isOpen.about, accepted.1.2, isOpen.untitled⟩

/-- Reports keep a job open, whichever of them are accepted. -/
theorem recordAll_open {job : Job} {s : Snapshot} (isOpen : Open job s) (reports : List (ProgressUpdate × Timestamp)) :
    ∃ last, (recordAll ⟨some s⟩ job.id reports).state = ⟨some last⟩ ∧ Open job last ∧
      ∀ published ∈ (recordAll ⟨some s⟩ job.id reports).published, published.jobId = job.id := by
  induction reports generalizing s with
  | nil => exact ⟨s, rfl, isOpen, by simp [recordAll]⟩
  | cons report rest ih =>
    obtain ⟨update, now⟩ := report
    obtain ⟨rejected, -⟩ | ⟨tracked, held, -, accepted, recorded⟩ :=
      record_cases ⟨some s⟩ job.id (.progress update) now
    · simpa only [recordAll, rejected, List.nil_append] using ih isOpen
    · cases held
      have next := isOpen.report accepted now
      obtain ⟨last, after, lastOpen, about⟩ := ih next
      refine ⟨last, ?_, lastOpen, ?_⟩
      · simpa only [recordAll, recorded] using after
      · intro published member
        simp only [recordAll, recorded, List.mem_append, List.mem_singleton] at member
        rcases member with rfl | later
        · exact next.about
        · exact about published later

theorem recordAll_keeps {holds : Snapshot → Prop}
    (kept : ∀ s update now, holds s → holds (s.after (.progress update) now)) {s : Snapshot} (initial : holds s)
    (id : JobId) (reports : List (ProgressUpdate × Timestamp)) :
    ∃ last, (recordAll ⟨some s⟩ id reports).state = ⟨some last⟩ ∧ holds last := by
  induction reports generalizing s with
  | nil => exact ⟨s, rfl, initial⟩
  | cons report rest ih =>
    obtain ⟨update, now⟩ := report
    obtain ⟨rejected, -⟩ | ⟨tracked, held, -, -, recorded⟩ := record_cases ⟨some s⟩ id (.progress update) now
    · simpa only [recordAll, rejected] using ih initial
    · cases held
      simpa only [recordAll, recorded] using ih (kept s update now initial)

/-- A snapshot after requests to cancel were noted in it. -/
def Noted (reference s : Snapshot) : Prop := ∃ message now, s = { reference with message, updatedAt := now }

theorem Noted.refl (s : Snapshot) : Noted s s := ⟨s.message, s.updatedAt, rfl⟩

theorem Noted.again {reference s : Snapshot} (noted : Noted reference s) (now : Timestamp) :
    Noted reference (s.after .cancelRequested now) := by
  obtain ⟨message, before, rfl⟩ := noted
  exact ⟨_, now, rfl⟩

theorem Noted.accepts {reference s : Snapshot} (noted : Noted reference s) (event : JobEvent) :
    s.accepts event = reference.accepts event := by
  obtain ⟨message, now, rfl⟩ := noted
  cases event <;> rfl

theorem Noted.after {reference s : Snapshot} (noted : Noted reference s) {event : JobEvent}
    (other : event ≠ .cancelRequested) (now : Timestamp) : s.after event now = reference.after event now := by
  obtain ⟨message, before, rfl⟩ := noted
  cases event with
  | cancelRequested => exact absurd rfl other
  | progress | completed | cancelled | failed => rfl

/-- The tracked snapshot is the reference, but for notes. -/
def Tracks (t : Tracker) (reference : Snapshot) : Prop := ∃ s, t.current = some s ∧ Noted reference s

theorem Tracks.note {t : Tracker} {reference : Snapshot} (tracks : Tracks t reference) (id : JobId) (now : Timestamp) :
    Tracks (t.record id .cancelRequested now).state reference := by
  obtain ⟨s, held, noted⟩ := tracks
  obtain ⟨rejected, -⟩ | ⟨other, tracked, -, -, recorded⟩ := record_cases t id .cancelRequested now
  · rw [rejected]
    exact ⟨s, held, noted⟩
  · rw [recorded]
    rw [held] at tracked
    cases tracked
    exact ⟨_, rfl, noted.again now⟩

/-- Recording an event in the tracked snapshot is recording it in the reference. -/
theorem Tracks.record {t : Tracker} {reference : Snapshot} (tracks : Tracks t reference) (id : JobId) (event : JobEvent)
    (other : event ≠ .cancelRequested) (now : Timestamp) :
    let next := (⟨some reference⟩ : Tracker).record id event now
    ∃ later, next.state = ⟨some later⟩ ∧ (t.record id event now).published = next.published ∧
      Tracks (t.record id event now).state later := by
  obtain ⟨s, held, noted⟩ := tracks
  have same : s.jobId = reference.jobId := by
    obtain ⟨message, before, rfl⟩ := noted
    rfl
  by_cases accepted : s.jobId = id ∧ s.accepts event = true
  · have mirrored := accepted
    rw [same, noted.accepts] at mirrored
    simp only [Tracker.record, Tracker.next?, held, accepted, mirrored, and_self, ↓reduceIte, noted.after other]
    exact ⟨_, rfl, trivial, _, rfl, .refl _⟩
  · have mirrored := accepted
    rw [same, noted.accepts] at mirrored
    simp only [Tracker.record, Tracker.next?, held, accepted, mirrored, ↓reduceIte]
    exact ⟨_, rfl, trivial, s, held, noted⟩

end BookExport.Proofs.SequentialReports
