import BookExport.Proofs.FlightSteps
import BookExport.Proofs.UntimedQueues

/-! Snapshots that differ in nothing but times. The path of a trace names the moment at which the trace was written, so
that moment may differ as well. -/

namespace BookExport.Proofs.UntimedStories
open SequentialReports FlightSteps UntimedQueues

def timeless (s : Snapshot) : Snapshot := { s with updatedAt := default }

/-- The errors of two ends of one job. If a trace was written of each, each names its own. -/
inductive SameError : Option JobError → Option JobError → Prop where
  | same (error : Option JobError) : SameError error error
  | traced (dir : String) (block : JobError) (job : Job) (error : ExportError) (now later : Timestamp) :
      SameError (some (Trace.attach ((Trace.ofFailure job error now).path dir) block))
        (some (Trace.attach ((Trace.ofFailure job error later).path dir) block))

structure SameButTimes (s t : Snapshot) : Prop where
  fields : { timeless s with error := none } = { timeless t with error := none }
  error : SameError s.error t.error

theorem sameButTimes_of_timeless {s t : Snapshot} (same : timeless s = timeless t) : SameButTimes s t := by
  refine ⟨congrArg (fun s => { s with error := none }) same, ?_⟩
  have error : s.error = t.error := show (timeless s).error = (timeless t).error from congrArg Snapshot.error same
  rw [error]
  exact .same _

section
variable {s t : Snapshot}

private theorem status_of_timeless (same : timeless s = timeless t) : s.status = t.status :=
  show (timeless s).status = (timeless t).status from congrArg Snapshot.status same

private theorem timeless_after (same : timeless s = timeless t) (event : JobEvent) (now later : Timestamp) :
    timeless (s.after event now) = timeless (t.after event later) := by
  have erased (s : Snapshot) (now : Timestamp) : timeless (s.after event now) = timeless ((timeless s).after event now) := by
    cases event <;> rfl
  rw [erased s, erased t, same]
  cases event <;> rfl

/-- The same reports, delivered at whatever times, lead to the same. -/
theorem timeless_recordAll (same : timeless s = timeless t) (id : JobId) {left right : List (ProgressUpdate × Timestamp)}
    (sent : left.map Prod.fst = right.map Prod.fst) :
    ∃ last other, (recordAll ⟨some s⟩ id left).state = ⟨some last⟩ ∧ (recordAll ⟨some t⟩ id right).state = ⟨some other⟩ ∧
      timeless last = timeless other ∧
      (recordAll ⟨some s⟩ id left).published.map timeless = (recordAll ⟨some t⟩ id right).published.map timeless := by
  induction left generalizing s t right with
  | nil =>
    obtain rfl := List.map_eq_nil_iff.mp sent.symm
    exact ⟨s, t, rfl, rfl, same, rfl⟩
  | cons report rest ih =>
    obtain ⟨⟨update, later⟩, others, rfl, rfl, behind⟩ := List.map_eq_cons_iff.mp sent.symm
    obtain ⟨update, now⟩ := report
    have accepted : (s.jobId = id ∧ s.accepts (.progress update) = true) =
        (t.jobId = id ∧ t.accepts (.progress update) = true) := by
      have about : s.jobId = t.jobId := show (timeless s).jobId = (timeless t).jobId from congrArg Snapshot.jobId same
      rw [Snapshot.accepts, Snapshot.accepts, about, status_of_timeless same]
    by_cases taken : t.jobId = id ∧ t.accepts (.progress update) = true
    · have next := timeless_after same (.progress update) now later
      obtain ⟨last, other, first, second, alike, published⟩ := ih next behind.symm
      refine ⟨last, other, ?_, ?_, alike, ?_⟩
      · simpa only [recordAll, Tracker.record, Tracker.next?, accepted, taken, and_self, ↓reduceIte] using first
      · simpa only [recordAll, Tracker.record, Tracker.next?, taken, and_self, ↓reduceIte] using second
      · simp only [recordAll, Tracker.record, Tracker.next?, accepted, taken, and_self, ↓reduceIte, List.map_append,
          List.map_cons, List.map_nil, next, published]
    · simpa only [recordAll, Tracker.record, Tracker.next?, accepted, taken, ↓reduceIte, List.nil_append] using
        ih same behind.symm

end

section
variable {job other : Job}

theorem timeless_starting (same : untimed job = untimed other) (now later : Timestamp) :
    timeless (.starting job now) = timeless (.starting other later) :=
  show timeless (.starting (untimed job) now) = timeless (.starting (untimed other) now) by rw [same]

/-- A verdict on the same result ends the same job in the same way. -/
theorem verdict_alike (same : untimed job = untimed other) {s t : Snapshot} (alike : timeless s = timeless t)
    (result : Except ExportError JobOutputs) (isCancelled : Bool) (traceDir : Option String) (canWrite : Bool)
    (judged now later finished : Timestamp) :
    let first := Verdict.ofResult job result isCancelled traceDir canWrite judged
    let second := Verdict.ofResult other result isCancelled traceDir canWrite later
    SameButTimes (s.after first.event now) (t.after second.event finished) ∧ first.status = second.status := by
  have trace (error : ExportError) : Trace.ofFailure job error judged = Trace.ofFailure other error judged :=
    show Trace.ofFailure (untimed job) error judged = Trace.ofFailure (untimed other) error judged by rw [same]
  cases result with
  | ok outputs => exact ⟨sameButTimes_of_timeless (timeless_after alike _ now finished), rfl⟩
  | error error =>
    simp only [Verdict.ofResult]
    split
    · exact ⟨sameButTimes_of_timeless (timeless_after alike _ now finished), rfl⟩
    · have plain := timeless_after alike (.failed (JobError.ofError error)) now finished
      cases traceDir with
      | none => exact ⟨sameButTimes_of_timeless plain, rfl⟩
      | some dir =>
        cases canWrite with
        | false => exact ⟨sameButTimes_of_timeless plain, rfl⟩
        | true =>
          refine ⟨⟨congrArg (fun s => { s with error := none }) plain, ?_⟩, rfl⟩
          simp only [Verdict.failure, Snapshot.after, trace error]
          exact .traced dir (JobError.ofError error) other error judged later

end

end BookExport.Proofs.UntimedStories
