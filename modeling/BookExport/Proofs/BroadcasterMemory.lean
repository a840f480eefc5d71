import BookExport.Broadcaster

/-! What the broadcaster remembers is a function of what was published: subscribers have no part in it. Only
finished jobs are ever forgotten, so of any other job it knows the very last snapshot. -/

namespace BookExport.Proofs.BroadcasterMemory

/-- What was published about one job, oldest first. -/
def story (id : JobId) (log : List Snapshot) : List Snapshot := log.filter (·.jobId = id)

@[simp] theorem story_nil (id : JobId) : story id [] = [] := rfl

@[simp] theorem story_append (id : JobId) (first rest : List Snapshot) :
    story id (first ++ rest) = story id first ++ story id rest := List.filter_append ..

theorem story_cons_self {id : JobId} {s : Snapshot} (about : s.jobId = id) (rest : List Snapshot) :
    story id (s :: rest) = s :: story id rest := List.filter_cons_of_pos (by simpa using about)

theorem story_cons_other {id : JobId} {s : Snapshot} (about : s.jobId ≠ id) (rest : List Snapshot) :
    story id (s :: rest) = story id rest := List.filter_cons_of_neg (by simpa using about)

theorem mem_story {id : JobId} {s : Snapshot} {log : List Snapshot} :
    s ∈ story id log ↔ s ∈ log ∧ s.jobId = id := by simp [story]

theorem story_eq_nil {id : JobId} {log : List Snapshot} (silent : ∀ s ∈ log, s.jobId ≠ id) : story id log = [] :=
  List.filter_eq_nil_iff.mpr (fun s member => by simpa using silent s member)

theorem story_eq_self {id : JobId} {log : List Snapshot} (about : ∀ s ∈ log, s.jobId = id) : story id log = log :=
  List.filter_eq_self.mpr (fun s member => by simpa using about s member)

/-- Two broadcasters remember the same, whoever listens to them. -/
structure SameMemory (a b : Broadcaster) : Prop where
  retention : a.retention = b.retention
  latest : a.latest = b.latest
  headline : a.headline = b.headline
  finished : a.finished = b.finished

theorem SameMemory.refl (b : Broadcaster) : SameMemory b b := ⟨rfl, rfl, rfl, rfl⟩

theorem SameMemory.symm {a b : Broadcaster} (same : SameMemory a b) : SameMemory b a :=
  ⟨same.retention.symm, same.latest.symm, same.headline.symm, same.finished.symm⟩

theorem SameMemory.trans {a b c : Broadcaster} (first : SameMemory a b) (rest : SameMemory b c) : SameMemory a c :=
  ⟨first.retention.trans rest.retention, first.latest.trans rest.latest, first.headline.trans rest.headline,
    first.finished.trans rest.finished⟩

theorem SameMemory.poll {a b : Broadcaster} (same : SameMemory a b) (id : Option JobId) : a.poll id = b.poll id := by
  simp only [Broadcaster.poll, same.latest, same.headline]

theorem SameMemory.publish {a b : Broadcaster} (same : SameMemory a b) (s : Snapshot) :
    SameMemory (a.publish s) (b.publish s) := by
  obtain ⟨retention, latest, headline, finished⟩ := same
  unfold Broadcaster.publish Broadcaster.retire
  simp only [retention, latest, headline, finished]
  split
  · split <;> exact ⟨rfl, rfl, rfl, rfl⟩
  · exact ⟨rfl, rfl, rfl, rfl⟩

theorem SameMemory.publishAll {a b : Broadcaster} (same : SameMemory a b) (log : List Snapshot) :
    SameMemory (a.publishAll log) (b.publishAll log) := by
  induction log generalizing a b with
  | nil => exact same
  | cons s rest ih => exact ih (same.publish s)

theorem publishAll_append (b : Broadcaster) (first rest : List Snapshot) :
    b.publishAll (first ++ rest) = (b.publishAll first).publishAll rest := List.foldl_append ..

private theorem lookup_other {key wanted : JobId} (different : wanted ≠ key) (value : Snapshot)
    (rest : List (JobId × Snapshot)) : ((key, value) :: rest).lookup wanted = rest.lookup wanted := by
  simp [List.lookup_cons, beq_eq_false_iff_ne.mpr different]

theorem lookup_setLatest (id : JobId) (s : Snapshot) (latest : List (JobId × Snapshot)) (wanted : JobId) :
    (Broadcaster.setLatest id s latest).lookup wanted = if wanted = id then some s else latest.lookup wanted := by
  induction latest with
  | nil =>
    by_cases found : wanted = id
    · simp [Broadcaster.setLatest, found]
    · simp [Broadcaster.setLatest, lookup_other found, found]
  | cons entry rest ih =>
    obtain ⟨key, value⟩ := entry
    simp only [Broadcaster.setLatest]
    by_cases same : key = id
    · subst key
      by_cases found : wanted = id
      · simp [found]
      · simp [lookup_other found, found]
    · by_cases found : wanted = key
      · subst wanted
        simp [same]
      · simp [same, lookup_other found, ih]

theorem lookup_remembered (forgotten : List JobId) (latest : List (JobId × Snapshot)) {wanted : JobId}
    (remembered : wanted ∉ forgotten) :
    (latest.filter fun (key, _) => key ∉ forgotten).lookup wanted = latest.lookup wanted := by
  induction latest with
  | nil => rfl
  | cons entry rest ih =>
    obtain ⟨key, value⟩ := entry
    by_cases found : wanted = key
    · subst wanted
      simp [remembered]
    · by_cases gone : key ∈ forgotten
      · rw [List.filter_cons_of_neg (by simpa using gone), lookup_other found, ih]
      · rw [List.filter_cons_of_pos (by simpa using gone), lookup_other found, lookup_other found, ih]

/-- Trimming neither adds nor invents jobs. -/
private theorem mem_of_mem_trimFinished (headline : Option JobId) (keep rounds : Nat) (order : List JobId) (id : JobId)
    (member : id ∈ (Broadcaster.trimFinished headline keep rounds order).1 ∨
      id ∈ (Broadcaster.trimFinished headline keep rounds order).2) : id ∈ order := by
  induction rounds generalizing order with
  | zero => simpa [Broadcaster.trimFinished] using member
  | succ rounds ih =>
    unfold Broadcaster.trimFinished at member
    split at member
    · simpa using member
    · cases order with
      | nil => simp at member
      | cons first rest =>
        simp only at member
        split at member
        · split at member
          · simp only [List.not_mem_nil, or_false, List.mem_singleton] at member
            simp [member]
          · have later := ih _ member
            simpa [or_comm] using later
        · simp only [List.mem_cons] at member
          rcases member with kept | rfl | forgotten
          · exact List.mem_cons_of_mem _ (ih rest (Or.inl kept))
          · exact List.mem_cons_self
          · exact List.mem_cons_of_mem _ (ih rest (Or.inr forgotten))

/-- A job that never finished is not touched when others retire. -/
private theorem retire_other (b : Broadcaster) {finishing id : JobId} (different : finishing ≠ id)
    (unfinished : id ∉ b.finished) :
    (b.retire finishing).latest.lookup id = b.latest.lookup id ∧ id ∉ (b.retire finishing).finished := by
  unfold Broadcaster.retire
  split
  · exact ⟨rfl, unfinished⟩
  · have absent : id ∉ if finishing ∈ b.finished then b.finished else b.finished ++ [finishing] := by
      split
      · exact unfinished
      · simp only [List.mem_append, List.mem_singleton, not_or]
        exact ⟨unfinished, fun same => different same.symm⟩
    refine ⟨?_, ?_⟩
    · have remembered (rounds : Nat) : id ∉ (Broadcaster.trimFinished b.headline b.retention rounds _).2 :=
        fun forgotten => absent (mem_of_mem_trimFinished _ _ _ _ _ (Or.inr forgotten))
      exact lookup_remembered _ b.latest (remembered _)
    · intro kept
      exact absent (mem_of_mem_trimFinished _ _ _ _ _ (Or.inl kept))

/-- Publishing leaves an unfinished job unfinished unless it tells of its end, and the job's latest snapshot
changes only by a snapshot of its own. -/
private theorem publish_unfinished (b : Broadcaster) (s : Snapshot) {id : JobId} (unfinished : id ∉ b.finished)
    (goesOn : s.jobId = id → s.status.isTerminal = false) :
    (b.publish s).latest.lookup id = (if id = s.jobId then some s else b.latest.lookup id) ∧
      id ∉ (b.publish s).finished := by
  unfold Broadcaster.publish
  simp only
  split
  next ends =>
    have different : s.jobId ≠ id := fun same => by simp [goesOn same] at ends
    obtain ⟨found, absent⟩ := retire_other
      { b with headline := Broadcaster.headlineAfter b.headline s, latest := Broadcaster.setLatest s.jobId s b.latest }
      different unfinished
    exact ⟨found.trans (lookup_setLatest ..), absent⟩
  next => exact ⟨lookup_setLatest .., unfinished⟩

/-- The latest snapshot of a job that did not finish is the last one of its story. -/
theorem lookup_publishAll (b : Broadcaster) (log : List Snapshot) {id : JobId} (unfinished : id ∉ b.finished)
    (goesOn : ∀ s ∈ story id log, s.status.isTerminal = false) :
    (b.publishAll log).latest.lookup id = ((story id log).getLast?).or (b.latest.lookup id) := by
  induction log generalizing b with
  | nil => rfl
  | cons s rest ih =>
    have first : s.jobId = id → s.status.isTerminal = false :=
      fun same => goesOn s (mem_story.mpr ⟨List.mem_cons_self, same⟩)
    have later : ∀ t ∈ story id rest, t.status.isTerminal = false := by
      intro t member
      obtain ⟨inside, about⟩ := mem_story.mp member
      exact goesOn t (mem_story.mpr ⟨List.mem_cons_of_mem _ inside, about⟩)
    obtain ⟨found, absent⟩ := publish_unfinished b s unfinished first
    have remaining := ih (b.publish s) absent later
    change ((b.publish s).publishAll rest).latest.lookup id = _
    rw [remaining, found]
    by_cases same : s.jobId = id
    · rw [story_cons_self same, if_pos same.symm, List.getLast?_cons]
      cases (story id rest).getLast? <;> rfl
    · rw [story_cons_other same, if_neg (Ne.symm same)]

end BookExport.Proofs.BroadcasterMemory
