import BookExport.Proofs.BroadcasterMemory

/-! What is remembered of a job, finished or not, is the last that was told about it: retention can only take it away
as a whole. The job of the headline is never taken away, so the headline always shows the last snapshot of its job. -/

namespace BookExport.Proofs.LatestSnapshots
open BroadcasterMemory

theorem lookup_forgotten (forgotten : List JobId) (latest : List (JobId × Snapshot)) {wanted : JobId}
    (gone : wanted ∈ forgotten) : (latest.filter fun (key, _) => key ∉ forgotten).lookup wanted = none := by
  apply List.lookup_eq_none_iff.mpr
  intro entry member
  have kept : entry.1 ∉ forgotten := by simpa using (List.mem_filter.mp member).2
  have different : wanted ≠ entry.1 := fun same => kept (same ▸ gone)
  simpa using different

private theorem headline_not_forgotten {headline : Option JobId} {id : JobId} (shown : headline = some id)
    (keep rounds : Nat) (order : List JobId) : id ∉ (Broadcaster.trimFinished headline keep rounds order).2 := by
  induction rounds generalizing order with
  | zero => simp [Broadcaster.trimFinished]
  | succ rounds ih =>
    unfold Broadcaster.trimFinished
    split
    · simp
    · cases order with
      | nil => simp
      | cons first rest =>
        simp only
        split
        · split
          · simp
          · exact ih _
        next other =>
          have different : id ≠ first := fun same => other (same ▸ shown)
          simp only [List.mem_cons, not_or]
          exact ⟨different, ih rest⟩

theorem headline_retire (b : Broadcaster) (finishing : JobId) : (b.retire finishing).headline = b.headline := by
  unfold Broadcaster.retire
  split <;> rfl

/-- When a job retires, any job keeps its latest snapshot or is forgotten, and the job of the headline keeps it. -/
private theorem lookup_retire (b : Broadcaster) (finishing id : JobId) :
    (b.retire finishing).latest.lookup id = b.latest.lookup id ∨
      (b.retire finishing).latest.lookup id = none ∧ b.headline ≠ some id := by
  unfold Broadcaster.retire
  split
  · exact Or.inl rfl
  · simp only
    generalize 2 * _ = rounds
    generalize (if finishing ∈ b.finished then b.finished else b.finished ++ [finishing]) = order
    by_cases gone : id ∈ (Broadcaster.trimFinished b.headline b.retention rounds order).2
    · right
      refine ⟨lookup_forgotten _ _ gone, ?_⟩
      intro shown
      exact headline_not_forgotten shown _ _ _ gone
    · exact Or.inl (lookup_remembered _ _ gone)

@[simp] theorem headline_publish (b : Broadcaster) (s : Snapshot) :
    (b.publish s).headline = Broadcaster.headlineAfter b.headline s := by
  unfold Broadcaster.publish
  simp only
  split
  · exact headline_retire ..
  · rfl

/-- After a snapshot is published, it is the latest one of its job, and others keep theirs; but any job may have been
forgotten, except for the job of the headline. -/
private theorem lookup_publish (b : Broadcaster) (s : Snapshot) (id : JobId) :
    (b.publish s).latest.lookup id = (if id = s.jobId then some s else b.latest.lookup id) ∨
      (b.publish s).latest.lookup id = none ∧ (b.publish s).headline ≠ some id := by
  rw [headline_publish]
  unfold Broadcaster.publish
  simp only
  split
  · obtain kept | gone := lookup_retire
      { b with headline := Broadcaster.headlineAfter b.headline s, latest := Broadcaster.setLatest s.jobId s b.latest }
      s.jobId id
    · exact Or.inl (kept.trans (lookup_setLatest ..))
    · exact Or.inr gone
  · exact Or.inl (lookup_setLatest ..)

theorem poll_headline_publish (b : Broadcaster) (s : Snapshot) :
    (b.publish s).poll none = if (b.publish s).headline = some s.jobId then some s else b.poll none := by
  have kept {id : JobId} (shown : (b.publish s).headline = some id) :
      (b.publish s).poll none = if id = s.jobId then some s else b.latest.lookup id := by
    obtain told | ⟨-, hidden⟩ := lookup_publish b s id
    · rw [Broadcaster.poll, Option.none_or, shown]
      exact told
    · exact absurd shown hidden
  split
  next about => simpa using kept about
  next other =>
    have same : (b.publish s).headline = b.headline := by
      rw [headline_publish] at other ⊢
      unfold Broadcaster.headlineAfter at other ⊢
      split
      next taken => simp [taken] at other
      next => rfl
    cases held : b.headline with
    | none =>
      rw [headline_publish, Broadcaster.headlineAfter, held] at other
      exact absurd rfl other
    | some id =>
      rw [held] at same
      have different : id ≠ s.jobId := fun about => other (about ▸ same)
      rw [kept same, if_neg different]
      simp [Broadcaster.poll, held]

private theorem poll_publish {b : Broadcaster} {s t : Snapshot} {id : JobId} (remembered : (b.publish s).poll (some id) = some t) :
    (if s.jobId = id then some s else b.poll (some id)) = some t := by
  have found : (b.publish s).latest.lookup id = some t := remembered
  obtain told | ⟨gone, -⟩ := lookup_publish b s id
  · rw [← found, told]
    simp only [eq_comm]
    rfl
  · rw [gone] at found
    cases found

/-- Whoever is remembered after a history is remembered with the last snapshot of its story. -/
theorem poll_publishAll {b : Broadcaster} {log : List Snapshot} {id : JobId} {t : Snapshot}
    (remembered : (b.publishAll log).poll (some id) = some t) :
    ((story id log).getLast?).or (b.poll (some id)) = some t := by
  induction log generalizing b with
  | nil => exact remembered
  | cons s rest ih =>
    have later := ih remembered
    have first : (story id (s :: rest)).getLast? =
        ((story id rest).getLast?).or (if s.jobId = id then some s else none) := by
      by_cases about : s.jobId = id
      · rw [story_cons_self about, List.getLast?_cons, if_pos about]
        cases (story id rest).getLast? <;> rfl
      · rw [story_cons_other about, if_neg about, Option.or_none]
    rw [first]
    cases last : (story id rest).getLast? with
    | some u => simpa [last] using later
    | none =>
      rw [last] at later
      have earlier := poll_publish later
      split at earlier
      next about => simpa [about] using earlier
      next other => simpa [other] using earlier

end BookExport.Proofs.LatestSnapshots
