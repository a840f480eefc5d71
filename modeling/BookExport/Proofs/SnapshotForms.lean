import BookExport.Proofs.EndsAreTold
import BookExport.Proofs.JobCourse

/-! What the fields of a snapshot have to do with its status. Snapshots are made from jobs, or from the tracked snapshot
by an event; the tracked one is never queued, so each event finds the form that it builds on. -/

namespace BookExport.Proofs.SnapshotForms
open QueuePositions JobStories ServiceDeeds JobCourse EndsAreTold

structure WellFormed (s : Snapshot) : Prop where
  bounded : s.percentage ≤ 100
  queued : s.status = .queued → s.queuePosition.isSome = true ∧ s.percentage = 0
  active : s.status.isActive = true → s.queuePosition = some 0
  ended : s.status.isTerminal = true → s.queuePosition = none ∧ s.etaSeconds = none
  failed : s.error.isSome = true ↔ s.status = .failed
  completed : s.status = .completed → s.percentage = 100
  unfinished : s.status ≠ .completed → s.title = none ∧ s.outputs = {}

private theorem wellFormed_queued (job : Job) (now : Timestamp) : WellFormed (.queued job now) :=
  ⟨show (0 : UInt8) ≤ 100 by decide, fun _ => ⟨rfl, rfl⟩, nofun, nofun, by simp [Snapshot.queued, Snapshot.blank], nofun,
    fun _ => ⟨rfl, rfl⟩⟩

private theorem wellFormed_withdrawn (job : Job) (now : Timestamp) : WellFormed (.withdrawn job now) :=
  ⟨show (0 : UInt8) ≤ 100 by decide, nofun, nofun, fun _ => ⟨rfl, rfl⟩, by simp [Snapshot.withdrawn, Snapshot.blank],
    nofun, fun _ => ⟨rfl, rfl⟩⟩

private theorem wellFormed_starting (job : Job) (now : Timestamp) : WellFormed (.starting job now) :=
  ⟨show (0 : UInt8) ≤ 100 by decide, nofun, fun _ => rfl, nofun, by simp [Snapshot.starting, Snapshot.blank], nofun,
    fun _ => ⟨rfl, rfl⟩⟩

private theorem ne_of_goesOn {status : Status} (goesOn : status.isTerminal = false) :
    status ≠ .completed ∧ status ≠ .failed := by
  constructor <;> (rintro rfl; cases goesOn)

private theorem ne_queued_of_isActive {status : Status} (active : status.isActive = true) : status ≠ .queued := by
  rintro rfl
  cases active

structure Begun (s : Snapshot) : Prop where
  form : WellFormed s
  begun : s.status ≠ .queued

section
variable {s : Snapshot}

/-- Whatever goes on has no error, no title and no files. -/
theorem WellFormed.bare (form : WellFormed s) (goesOn : s.status.isTerminal = false) :
    s.error = none ∧ s.title = none ∧ s.outputs = {} := by
  obtain ⟨uncompleted, unfailed⟩ := ne_of_goesOn goesOn
  refine ⟨?_, form.unfinished uncompleted⟩
  rw [← Option.not_isSome_iff_eq_none]
  exact fun blocked => unfailed (form.failed.mp blocked)

/-- A report keeps the form: it only says how far the job has come. -/
private theorem wellFormed_progress (form : WellFormed s) (goesOn : s.status.isTerminal = false) (update : ProgressUpdate)
    (phase : update.status.isActive = true) (now : Timestamp) : WellFormed (s.after (.progress update) now) := by
  have unqueued := ne_queued_of_isActive phase
  have goesOnLater := isTerminal_of_isActive phase
  obtain ⟨uncompleted, unfailed⟩ := ne_of_goesOn goesOnLater
  obtain ⟨unblocked, untitled, fileless⟩ := form.bare goesOn
  refine ⟨percentage_bounded form.bounded _, fun queued => absurd queued unqueued, fun _ => rfl, ?_, ?_,
    fun completed => absurd completed uncompleted, fun _ => ⟨untitled, fileless⟩⟩
  · intro ended
    exact absurd (ended.symm.trans goesOnLater) (by simp)
  · simp [Snapshot.after, unblocked, unfailed]

/-- An end keeps the form, whatever was known of the job before. -/
private theorem wellFormed_end (form : WellFormed s) (goesOn : s.status.isTerminal = false) {event : JobEvent}
    (ends : event.end?.isSome = true) (now : Timestamp) : WellFormed (s.after event now) := by
  obtain ⟨unblocked, untitled, fileless⟩ := form.bare goesOn
  cases event with
  | progress | cancelRequested => cases ends
  | completed outputs =>
    exact ⟨UInt8.le_refl _, nofun, nofun, fun _ => ⟨rfl, rfl⟩, by simp [Snapshot.after, Snapshot.ending, unblocked],
      fun _ => rfl, fun other => absurd rfl other⟩
  | cancelled =>
    exact ⟨form.bounded, nofun, nofun, fun _ => ⟨rfl, rfl⟩, by simp [Snapshot.after, Snapshot.ending, unblocked], nofun,
      fun _ => ⟨untitled, fileless⟩⟩
  | failed error =>
    exact ⟨form.bounded, nofun, nofun, fun _ => ⟨rfl, rfl⟩, by simp [Snapshot.after], nofun,
      fun _ => ⟨untitled, fileless⟩⟩

/-- Whatever event the tracked snapshot accepts, it leads to a well-formed snapshot that can be tracked again. -/
theorem Begun.after (begun : Begun s) {event : JobEvent} (accepted : s.accepts event = true) (now : Timestamp) :
    Begun (s.after event now) := by
  have goesOn : s.status.isTerminal = false := by
    cases event <;> simp_all [Snapshot.accepts]
  cases event with
  | progress update =>
    simp only [Snapshot.accepts, Bool.and_eq_true] at accepted
    exact ⟨wellFormed_progress begun.form goesOn update accepted.1.2 now, ne_queued_of_isActive accepted.1.2⟩
  | cancelRequested =>
    obtain ⟨bounded, queued, active, ended, failed, completed, unfinished⟩ := begun.form
    exact ⟨⟨bounded, queued, active, ended, failed, completed, unfinished⟩, begun.begun⟩
  | completed | cancelled | failed =>
    refine ⟨wellFormed_end begun.form goesOn rfl now, ?_⟩
    intro queued
    cases queued

end

theorem wellFormed_places (jobs : List Job) (now : Timestamp) :
    ∀ s ∈ jobs.map (Snapshot.queued · now), WellFormed s := by
  intro s member
  obtain ⟨job, -, rfl⟩ := List.mem_map.mp member
  exact wellFormed_queued job now

private theorem wellFormed_change {before after : Line} {entered : List JobId} {published : List Snapshot}
    (change : Change before after entered published) : ∀ s ∈ published, WellFormed s := by
  cases change with
  | still | claimed => simp
  | joined _ job now => exact wellFormed_places [job] now
  | left ahead job behind active now =>
    rw [List.forall_mem_cons]
    exact ⟨wellFormed_withdrawn job now, wellFormed_places _ now⟩
  | freed id jobs now => exact wellFormed_places _ now

/-- What is tracked has begun and is well formed. -/
def Tracks (tracked : Option Snapshot) : Prop := ∀ s, tracked = some s → Begun s

private theorem tracks_some {s : Snapshot} (begun : Begun s) : Tracks (some s) := by
  intro t same
  cases same
  exact begun

theorem wellFormed_deed {before after : Scene} {entered : List JobId} {published : List Snapshot}
    (deed : Deed before after entered published) (tracks : Tracks before.tracked) :
    Tracks after.tracked ∧ ∀ s ∈ published, WellFormed s := by
  induction deed with
  | lines phase tracked change active => exact ⟨tracks, wellFormed_change change⟩
  | claims | gives | leaves => exact ⟨tracks, by simp⟩
  | begins line job tracked now =>
    exact ⟨tracks_some ⟨wellFormed_starting job now, nofun⟩, by simpa using wellFormed_starting job now⟩
  | records line phase s event now accepted goesOn =>
    have begun := (tracks s rfl).after accepted now
    exact ⟨tracks_some begun, by simpa using begun.form⟩
  | settles line s event now accepted ends =>
    have begun := (tracks s rfl).after accepted now
    exact ⟨tracks_some begun, by simpa using begun.form⟩
  | releases id jobs tracked now => exact ⟨tracks, wellFormed_places _ now⟩
  | both first second ihFirst ihSecond =>
    obtain ⟨between, told⟩ := ihFirst tracks
    obtain ⟨after, alsoTold⟩ := ihSecond between
    refine ⟨after, fun s member => ?_⟩
    rcases List.mem_append.mp member with earlier | later
    · exact told s earlier
    · exact alsoTold s later

theorem wellFormed_step {shop : Shop} (numbered : (lineOf shop.service.queue).Numbered)
    (tracks : Tracks shop.service.tracker.current) (call : Call) (now : Timestamp) :
    Tracks (shop.step call now).state.service.tracker.current ∧ ∀ s ∈ (shop.step call now).published, WellFormed s := by
  cases call with
  | move move => exact wellFormed_deed (step_deed shop.service move now numbered) tracks
  | next =>
    have told := wellFormed_change (next_changes shop.service.queue now numbered)
    simp only [Shop.step, Shop.next]
    split <;> exact ⟨tracks, told⟩
  | finishActive id => exact ⟨tracks, wellFormed_change (finishActive_changes shop.service.queue id now numbered)⟩
  | turn index =>
    simp only [Shop.step, Shop.turn]
    split <;> exact ⟨tracks, by simp⟩

theorem wellFormed_run {shop : Shop} (numbered : (lineOf shop.service.queue).Numbered)
    (tracks : Tracks shop.service.tracker.current) (calls : List (Call × Timestamp)) :
    ∀ s ∈ (shop.run calls).published, WellFormed s := by
  induction calls generalizing shop with
  | nil => simp [Shop.run]
  | cons first rest ih =>
    obtain ⟨call, now⟩ := first
    obtain ⟨tracksLater, told⟩ := wellFormed_step numbered tracks call now
    intro s member
    rcases List.mem_append.mp member with earlier | later
    · exact told s earlier
    · exact ih (numbered_step numbered call now) tracksLater s later

/-- Whatever happens to a service, with any number of workers, with clients who use its queue by hand, and whatever
exports report and end with: every published snapshot is well formed. -/
theorem published_is_wellFormed (s : Service) (empty : s.Empty) (calls : List (Call × Timestamp)) :
    ∀ shown ∈ (Shop.run ⟨s, []⟩ calls).published, WellFormed shown := by
  have numbered : (lineOf s.queue).Numbered := by rw [empty.queue]; trivial
  have tracks : Tracks s.tracker.current := by simp [Tracks, empty.tracker]
  exact wellFormed_run numbered tracks calls

/-- Of four jobs one is withdrawn while it waits. The others are exported with reports beyond all bounds, and one of them
is completed, one fails, and one is cancelled. -/
def everyEnd : List (Call × Timestamp) :=
  [.move (.accept ⟨"a"⟩ default), .move (.accept ⟨"b"⟩ default), .move (.accept ⟨"c"⟩ default),
    .move (.accept ⟨"d"⟩ default), .move .startWorker, .move (.cancel (some ⟨"d"⟩)), .move .check, .move .seek,
    .move .begin,
    .move (.report { status := .generatingPdf, percentage := 250, etaSeconds := some 9 }),
    .move (.report { status := .completed, percentage := 3 }), .move .deliver, .move .deliver,
    .move (.conclude (.finished { title := some "A", files := { pdf := some ["a.pdf"] } })), .move (.settle true),
    .move .release, .move .beat, .move .check, .move .seek, .move .begin, .move (.conclude (.panicked none)),
    .move (.settle false), .move .release, .move .beat, .move .check, .move .seek, .move .begin, .move (.cancel none),
    .move (.conclude (.failed (.auth "late"))), .move (.settle false), .move .release].map (·, default)

theorem published_is_wellFormed_at_every_end :
    (Shop.run ⟨{}, []⟩ everyEnd).published.map (·.status) =
        [.queued, .queued, .queued, .queued, .cancelled, .starting, .generatingPdf, .completed, .queued, .queued,
          .starting, .failed, .queued, .starting, .starting, .cancelled] ∧
      ∀ shown ∈ (Shop.run ⟨{}, []⟩ everyEnd).published, WellFormed shown :=
  ⟨by decide, published_is_wellFormed {} ⟨rfl, rfl, rfl, rfl, rfl, rfl⟩ everyEnd⟩

end BookExport.Proofs.SnapshotForms
