import BookExport.Proofs.ServiceDeeds

/-! Whoever publishes from outside the line, publishes about jobs that have left it for good: the tracked job and the
job in the worker's hands. Ids are fresh, so nobody who left comes back. -/

namespace BookExport.Proofs.JobPlacement
open QueuePositions BroadcasterMemory JobStories ServiceDeeds

/-- A job that was accepted and is not in line any more. -/
def Gone (known : List JobId) (line : Line) (id : JobId) : Prop := id ∈ known ∧ id ∉ line.ids

def jobOf : Phase → Option JobId
  | .idle => none
  | .claimed id | .running id | .settled id => some id

/-- The jobs that are published from outside the line have left it. -/
structure Placed (known : List JobId) (scene : Scene) (log : List Snapshot) : Prop where
  told : Told known scene.line log
  tracked : ∀ s, scene.tracked = some s → Gone known scene.line s.jobId
  worker : ∀ id, jobOf scene.phase = some id → Gone known scene.line id

theorem unknown_of_fresh {known entered rest : List JobId} (fresh : (known ++ entered ++ rest).Nodup) :
    ∀ id ∈ entered, id ∉ known := by
  intro id new old
  exact (List.nodup_append.mp (List.nodup_append.mp fresh).1).2.2 id old id new rfl

theorem jobId_after (s : Snapshot) (event : JobEvent) (now : Timestamp) : (s.after event now).jobId = s.jobId := by
  cases event <;> rfl

theorem Gone.change {known : List JobId} {before after : Line} {entered : List JobId} {published : List Snapshot}
    (change : Change before after entered published) (fresh : ∀ id ∈ entered, id ∉ known) {id : JobId}
    (gone : Gone known before id) : Gone (known ++ entered) after id := by
  refine ⟨List.mem_append_left _ gone.1, fun present => ?_⟩
  rcases List.mem_append.mp (change.ids_sublist.subset present) with old | new
  · exact gone.2 old
  · exact fresh id new gone.1

/-- Nobody comes back when nobody enters. -/
theorem Gone.stays {known : List JobId} {before after : Line} {published : List Snapshot} {id : JobId}
    (gone : Gone known before id) (change : Change before after [] published) : Gone known after id := by
  simpa using gone.change change (by simp)

/-- Nothing is published about whoever is gone when the line changes. -/
theorem Gone.silent {known : List JobId} {before after : Line} {entered : List JobId} {published : List Snapshot}
    (change : Change before after entered published) (fresh : ∀ id ∈ entered, id ∉ known) {id : JobId}
    (gone : Gone known before id) (log : List Snapshot) : story id (log ++ published) = story id log := by
  have silent : story id published = [] := by
    apply story_eq_nil
    intro s member same
    rcases List.mem_append.mp (change.about s member) with old | new
    · exact gone.2 (same ▸ old)
    · exact fresh id (same ▸ new) gone.1
  rw [story_append, silent, List.append_nil]

theorem Gone.deed {known : List JobId} {before after : Scene} {entered : List JobId} {published : List Snapshot}
    (deed : Deed before after entered published) (fresh : ∀ id ∈ entered, id ∉ known) {id : JobId}
    (gone : Gone known before.line id) : Gone (known ++ entered) after.line id := by
  induction deed generalizing known with
  | lines phase tracked change active => exact gone.change change fresh
  | claims job rest tracked => exact gone.change (.claimed job rest) fresh
  | releases active jobs tracked now => exact gone.change (.freed active jobs now) fresh
  | begins | records | settles | gives | leaves => simpa using gone
  | both first second ihFirst ihSecond => simpa using ihSecond (by simp) (ihFirst fresh gone)

private theorem told_gone {known : List JobId} {line : Line} {log : List Snapshot} (told : Told known line log)
    {s : Snapshot} (gone : Gone known line s.jobId) : Told known line (log ++ [s]) :=
  told.aside fun _ member => List.mem_singleton.mp member ▸ gone

theorem Placed.deed {known : List JobId} {before after : Scene} {log : List Snapshot} {entered : List JobId}
    {published : List Snapshot} (placed : Placed known before log) (deed : Deed before after entered published)
    (fresh : ∀ id ∈ entered, id ∉ known) : Placed (known ++ entered) after (log ++ published) := by
  induction deed generalizing known log with
  | lines phase tracked change active =>
    exact ⟨placed.told.change change fresh, fun s held => (placed.tracked s held).change change fresh,
      fun id held => (placed.worker id held).change change fresh⟩
  | claims job rest tracked =>
    have change := Change.claimed job rest
    refine ⟨placed.told.change change fresh, fun s held => (placed.tracked s held).change change fresh, ?_⟩
    intro id held
    obtain rfl : job.id = id := Option.some.inj held
    have distinct := placed.told.distinct
    refine ⟨List.mem_append_left _ (placed.told.inside _ (by simp [Line.ids])), ?_⟩
    simp only [Line.ids, List.map_cons, List.nodup_cons] at distinct
    exact distinct.1
  | begins line job tracked now =>
    have gone : Gone known line job.id := placed.worker job.id rfl
    rw [List.append_nil]
    refine ⟨told_gone placed.told gone, ?_, placed.worker⟩
    intro s held
    cases held
    exact gone
  | records line phase s event now accepted goesOn =>
    have gone : Gone known line (s.after event now).jobId := jobId_after s event now ▸ placed.tracked s rfl
    rw [List.append_nil]
    refine ⟨told_gone placed.told gone, ?_, placed.worker⟩
    intro t held
    cases held
    exact gone
  | settles line s event now accepted ends =>
    have gone : Gone known line (s.after event now).jobId := jobId_after s event now ▸ placed.tracked s rfl
    rw [List.append_nil]
    refine ⟨told_gone placed.told gone, ?_, placed.worker⟩
    intro t held
    cases held
    exact gone
  | gives line id tracked lost =>
    rw [List.append_nil, List.append_nil]
    exact ⟨placed.told, placed.tracked, placed.worker⟩
  | releases id jobs tracked now =>
    have change := Change.freed id jobs now
    exact ⟨placed.told.change change fresh, fun s held => (placed.tracked s held).change change fresh,
      fun id held => by cases held⟩
  | leaves line id tracked other =>
    rw [List.append_nil, List.append_nil]
    exact ⟨placed.told, placed.tracked, fun id held => by cases held⟩
  | both first second ihFirst ihSecond => simpa using ihSecond (ihFirst placed fresh) (by simp)

theorem Placed.initial : Placed [] ⟨⟨[], none⟩, .idle, none⟩ [] :=
  ⟨⟨trivial, .nil, by simp [Line.ids], by simp, by simp⟩, by simp, by simp [jobOf]⟩

end BookExport.Proofs.JobPlacement
