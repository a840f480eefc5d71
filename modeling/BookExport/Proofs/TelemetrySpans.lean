import BookExport.Proofs.JobLifecycle
import BookExport.Proofs.ServiceBooks
import BookExport.Proofs.SnapshotForms
import BookExport.Service.Handback

/-! What the worker tells about itself, and what its clients were told. The span of a job is made from the job as it is
given back, and the snapshot of its end from the snapshot before; both follow one verdict. -/

namespace BookExport.Proofs.TelemetrySpans
open QueuePositions QueueHistory BroadcasterMemory JobStories ServiceDeeds JobPlacement JobCourse JobLifecycle
open SnapshotForms ServiceBooks LoneFlights
open FlightSteps (cancel_aside)
open FlightOrder (status_after)

def blockOf : JobEvent → Option JobError
  | .failed error => some error
  | .progress _ | .cancelRequested | .completed _ | .cancelled => none

private theorem block_after {s : Snapshot} (bare : s.error = none) (event : JobEvent) (now : Timestamp) :
    (s.after event now).error = blockOf event := by
  cases event with
  | progress | cancelRequested | completed | cancelled => exact bare
  | failed error => rfl

private theorem verdict_block (job : Job) (result : Except ExportError JobOutputs) (isCancelled : Bool)
    (traceDir : Option String) (canWrite : Bool) (now : Timestamp) :
    (Verdict.ofResult job result isCancelled traceDir canWrite now).error =
      blockOf (Verdict.ofResult job result isCancelled traceDir canWrite now).event := by
  cases result with
  | ok outputs => rfl
  | error error =>
    simp only [Verdict.ofResult]
    split
    · rfl
    · unfold Verdict.failure
      simp only
      split <;> rfl

def Consistent : Worker → Prop
  | .claimed claim => claim.job.startedAt.isSome = true
  | .running flight => flight.job.startedAt.isSome = true
  | .judged job verdict => job.startedAt.isSome = true ∧ verdict.error = blockOf verdict.event
  | .absent | .waiting | .seeking | .settled _ | .resting | .stopped => True

structure Matches (done : Settled) (final : Snapshot) : Prop where
  id : done.job.id = final.jobId
  status : done.job.status = final.status
  error : done.error = final.error
  failed : final.error.isSome = true ↔ final.status = .failed
  terminal : final.status.isTerminal = true
  measured : done.job.durationMillis.isSome = true

/-- All that a move can do to a job in the worker's hands, with what the worker itself publishes, who is given back, and
how many wait if that is told. -/
inductive Turn (before : Worker) : Worker → List Snapshot → List Settled → List Nat → Prop where
  | goesOn {after : Worker} {own : List Snapshot} (consistent : Consistent before → Consistent after)
      (same : ∀ done, after = .settled done ↔ before = .settled done) (rests : after = .resting ↔ before = .resting)
      (unended : ∀ t ∈ own, t.status.isTerminal = false) : Turn before after own [] []
  | settles {done : Settled} {final : Snapshot} (unsettled : ∀ other, before ≠ .settled other) (busy : before ≠ .resting)
      (ends : Consistent before → Matches done final) : Turn before (.settled done) [final] [] []
  | releases {done : Settled} {own : List Snapshot} (held : before = .settled done)
      (unended : ∀ t ∈ own, t.status.isTerminal = false) : Turn before .resting own [done] []
  | beats {waiting : Nat} (rested : before = .resting) : Turn before .waiting [] [] [waiting]

section
variable {a b c : Worker} {own : List Snapshot} {back : List Settled} {counts : List Nat}

/-- What goes before an event and is not seen. -/
theorem Turn.trans (first : Turn a b [] [] []) (second : Turn b c own back counts) : Turn a c own back counts := by
  cases first with
  | goesOn consistent same rests =>
    cases second with
    | goesOn later also restsToo unended =>
      exact .goesOn (later ∘ consistent) (fun done => (also done).trans (same done)) (restsToo.trans rests) unended
    | settles unsettled busy ends =>
      exact .settles (fun other held => unsettled other ((same other).mpr held)) (busy ∘ rests.mpr) (ends ∘ consistent)
    | releases held unended => exact .releases ((same _).mp held) unended
    | beats rested => exact .beats (rests.mp rested)

theorem Turn.still (worker : Worker) : Turn worker worker [] [] [] := .goesOn id (fun _ => .rfl) .rfl (by simp)

end

section
variable {known : List JobId} {s : Service} {log : List Snapshot}

private theorem judged_settles (course : Course known (sceneOf s) log) (tracks : Tracks s.tracker.current) {job : Job}
    {verdict : Verdict} (judged : s.worker = .judged job verdict) (now : Timestamp) :
    ∃ final, (s.finish now).state.worker = .settled ⟨job.finish verdict.status now, verdict.error⟩ ∧
      (s.finish now).published = [final] ∧
      (Consistent s.worker → Matches ⟨job.finish verdict.status now, verdict.error⟩ final) := by
  have running : (sceneOf s).phase = .running job.id := by rw [sceneOf, judged]; rfl
  obtain ⟨shown, tracked, about, working⟩ := course.running job.id running
  have goesOn := isTerminal_of_isActive (active_of_working working).1
  have ends : verdict.event.end?.isSome = true := by rw [verdict.ends]; rfl
  have accepted : shown.accepts verdict.event = true := by rw [accepts_ending ends, goesOn]; rfl
  obtain ⟨-, lost⟩ | ⟨other, held, -, -, recorded⟩ := record_cases s.tracker job.id verdict.event now
  · rw [lost shown tracked about] at accepted
    cases accepted
  · obtain rfl : other = shown := Option.some.inj (held.symm.trans tracked)
    obtain ⟨form, -⟩ := (tracks other tracked).after accepted now
    have status := status_after verdict.ends other now
    have terminal : verdict.status.isTerminal = true := by
      rw [← status, isTerminal_after accepted, ends]
    refine ⟨other.after verdict.event now, ?_, ?_, fun consistent => ?_⟩
    · simp only [Service.finish, judged]
    · simp only [Service.finish, judged, Service.afterTracker, recorded]
    · rw [judged] at consistent
      obtain ⟨started, block⟩ := consistent
      obtain ⟨began, known⟩ := Option.isSome_iff_exists.mp started
      refine ⟨about.symm.trans (jobId_after ..).symm, status.symm, ?_, form.failed, status ▸ terminal, ?_⟩
      · exact block.trans (block_after ((tracks other tracked).form.bare goesOn).1 verdict.event now).symm
      · simp [Job.finish, Job.durationMillis, known]

private theorem finish_idle (other : ∀ job verdict, s.worker ≠ .judged job verdict) (now : Timestamp) :
    s.finish now = ⟨s, (), []⟩ := by
  unfold Service.finish
  split
  next job verdict judged => exact absurd judged (other job verdict)
  next => rfl

/-- Clients and the export leave the worker the job that it has, and do not end it. -/
theorem others_turn (s : Service) {move : Move} (others : move.isWorkers = false) (now : Timestamp) :
    Turn s.worker (s.step move now).state.worker [] [] [] := by
  cases move with
  | accept | requestCancel | noteCancel | shutDown | closeStreams | closeSubscriptions => exact .still _
  | cancel id => exact (cancel_aside s id now).worker ▸ .still _
  | startWorker =>
    simp only [Service.step, Service.startWorker]
    split
    next absent => exact .goesOn (fun _ => trivial) (by simp [absent]) (by simp [absent]) (by simp)
    next stopped => exact .goesOn (fun _ => trivial) (by simp [stopped]) (by simp [stopped]) (by simp)
    next => exact .still _
  | report update =>
    simp only [Service.step, Service.report]
    split
    next flight running =>
      split
      · exact .still _
      · rw [running]
        exact .goesOn id (by simp) (by simp) (by simp)
    next => exact .still _
  | conclude result =>
    simp only [Service.step, Service.conclude]
    split
    next flight running =>
      split
      · exact .still _
      · rw [running]
        exact .goesOn id (by simp) (by simp) (by simp)
    next => exact .still _
  | cancelSelf =>
    simp only [Service.step, Service.cancelSelf]
    split <;> exact .still _
  | check | seek | park | begin | deliver | judge | finish | settle | release | beat => cases others

theorem check_turn (s : Service) : Turn s.worker s.check.worker [] [] [] := by
  unfold Service.check
  split
  next waiting =>
    rw [waiting]
    split <;> exact .goesOn id (by simp) (by simp) (by simp)
  next => exact .still _

theorem seek_turn (numbered : (lineOf s.queue).Numbered) (now : Timestamp) :
    Turn s.worker (s.seek now).state.worker (s.seek now).published [] [] := by
  unfold Service.seek
  split
  next seeking =>
    obtain ⟨answer, -, published⟩ | ⟨job, rest, claim, -, answer, same, -, published⟩ :=
      waitNext_cases s.queue now numbered
    · simp only [Service.afterQueue, answer, published]
      exact .still _
    · simp only [Service.afterQueue, answer, published, seeking]
      exact .goesOn (fun _ => by rw [Consistent, same]; rfl) (by simp) (by simp) (by simp)
  next => exact .still _

theorem park_turn (s : Service) : Turn s.worker s.park.worker [] [] [] := by
  unfold Service.park
  split
  next seeking =>
    rw [seeking]
    exact .goesOn id (by simp) (by simp) (by simp)
  next => exact .still _

theorem begin_turn (s : Service) (now : Timestamp) :
    Turn s.worker (s.begin now).state.worker (s.begin now).published [] [] := by
  unfold Service.begin
  split
  next claim claimed =>
    rw [claimed]
    exact .goesOn id (by simp) (by simp) (List.forall_mem_singleton.mpr rfl)
  next => exact .still _

theorem deliver_turn (s : Service) (now : Timestamp) :
    Turn s.worker (s.deliver now).state.worker (s.deliver now).published [] [] := by
  unfold Service.deliver
  split
  next flight running =>
    split
    next update inbox reported =>
      rw [running]
      refine .goesOn id (by simp) (by simp) ?_
      obtain ⟨rejected, -⟩ | ⟨shown, -, -, accepted, recorded⟩ :=
        record_cases s.tracker flight.job.id (.progress update) now
      · simp [Service.afterTracker, rejected]
      · simp only [Service.afterTracker, recorded]
        exact List.forall_mem_singleton.mpr (isTerminal_after accepted now)
    next => exact .still _
  next => exact .still _

theorem judge_turn (s : Service) (canWrite : Bool) (now : Timestamp) :
    Turn s.worker (s.judge canWrite now).state.worker [] [] [] := by
  unfold Service.judge
  split
  next job token result running =>
    rw [running]
    exact .goesOn (fun consistent => ⟨consistent, verdict_block ..⟩) (by simp) (by simp) (by simp)
  next => exact .still _

theorem finish_turn (course : Course known (sceneOf s) log) (tracks : Tracks s.tracker.current) (now : Timestamp) :
    Turn s.worker (s.finish now).state.worker (s.finish now).published [] [] := by
  by_cases judged : ∃ job verdict, s.worker = .judged job verdict
  · obtain ⟨job, verdict, judged⟩ := judged
    obtain ⟨final, after, published, ends⟩ := judged_settles course tracks judged now
    rw [after, published]
    exact .settles (by simp [judged]) (by simp [judged]) ends
  · rw [finish_idle (fun job verdict held => judged ⟨job, verdict, held⟩)]
    exact .still _

theorem release_turn (numbered : (lineOf s.queue).Numbered) (now : Timestamp) :
    Turn s.worker (s.release now).state.worker (s.release now).published (s.givenBack .release) [] := by
  unfold Service.givenBack
  cases held : s.worker with
  | settled done =>
    obtain ⟨job, error⟩ := done
    have after : (s.release now).state.worker = .resting := by simp only [Service.release, held]
    rw [after]
    refine .releases rfl ?_
    simp only [Service.release, held, Service.afterQueue]
    obtain ⟨-, ignored⟩ | ⟨-, -, -, published⟩ := finishActive_cases s.queue job.id now numbered
    · simp [ignored]
    · rw [published, List.forall_mem_map]
      exact fun _ _ => rfl
  | _ =>
    simp only [Service.release, held]
    exact .still _

theorem beat_turn (s : Service) : Turn s.worker s.beat.worker [] [] (s.counted .beat) := by
  unfold Service.counted
  cases held : s.worker with
  | resting =>
    simp only [Service.beat, held]
    exact .beats rfl
  | _ =>
    simp only [Service.beat, held]
    exact .still _

theorem move_turn (course : Course known (sceneOf s) log) (tracks : Tracks s.tracker.current) (move : Move)
    (now : Timestamp) :
    Turn s.worker (s.step move now).state.worker (s.ownStep move now) (s.givenBack move) (s.counted move) := by
  have numbered := course.placed.told.numbered
  cases move with
  | accept | cancel | requestCancel | noteCancel | shutDown | closeStreams | closeSubscriptions | startWorker | report
  | conclude | cancelSelf => exact others_turn s rfl now
  | check => exact check_turn s
  | seek => exact seek_turn numbered now
  | park => exact park_turn s
  | begin => exact begin_turn s now
  | deliver => exact deliver_turn s now
  | judge canWrite =>
    have silent : s.ownStep (.judge canWrite) now = [] := judge_silent s canWrite now
    rw [silent]
    exact judge_turn s canWrite now
  | finish => exact finish_turn course tracks now
  | settle canWrite =>
    have scene := judge_scene s canWrite now
    have same : (s.judge canWrite now).state.tracker.current = s.tracker.current := congrArg Scene.tracked scene
    exact (judge_turn s canWrite now).trans (finish_turn (scene ▸ course) (same ▸ tracks) now)
  | release => exact release_turn numbered now
  | beat => exact beat_turn s

/-- The end of a job that was published and that the worker has not told of yet. -/
inductive Due : Worker → List Snapshot → Prop where
  | settled {done : Settled} {final : Snapshot} (ends : Matches done final) : Due (.settled done) [final]
  | nothing {worker : Worker} (unsettled : ∀ done, worker ≠ .settled done) : Due worker []

def ended (published : List Snapshot) : List Snapshot := published.filter (·.status.isTerminal)

private theorem ended_eq_nil {published : List Snapshot} (unended : ∀ t ∈ published, t.status.isTerminal = false) :
    ended published = [] :=
  List.filter_eq_nil_iff.mpr fun t member => by simp [unended t member]

/-- Who is given back is the one whose end is due, and an end is due until its job is given back. -/
theorem Turn.ends {before after : Worker} {own due : List Snapshot} {back : List Settled} {counts : List Nat}
    (turn : Turn before after own back counts) (consistent : Consistent before) (owed : Due before due) :
    Consistent after ∧ ∃ finals later, due ++ ended own = finals ++ later ∧ List.Forall₂ Matches back finals ∧
      Due after later := by
  cases turn with
  | goesOn keeps same _ unended =>
    refine ⟨keeps consistent, [], due, by rw [ended_eq_nil unended, List.append_nil, List.nil_append], .nil, ?_⟩
    cases owed with
    | @settled done final ends =>
      rw [(same done).mpr rfl]
      exact .settled ends
    | nothing unsettled => exact .nothing fun done held => unsettled done ((same done).mp held)
  | @settles done final unsettled _ ends =>
    cases owed with
    | settled => exact absurd rfl (unsettled _)
    | nothing =>
      have terminal : ended [final] = [final] := by simp [ended, (ends consistent).terminal]
      exact ⟨trivial, [], [final], by rw [terminal], .nil, .settled (ends consistent)⟩
  | releases held unended =>
    subst held
    cases owed with
    | settled ends =>
      exact ⟨trivial, _, [], by rw [ended_eq_nil unended], .cons ends .nil, .nothing (by simp)⟩
    | nothing unsettled => exact absurd rfl (unsettled _)
  | beats rested =>
    subst rested
    cases owed with
    | nothing => exact ⟨trivial, [], [], rfl, .nil, .nothing (by simp)⟩

theorem tracks_step (course : Course known (sceneOf s) log) (tracks : Tracks s.tracker.current) (move : Move)
    (now : Timestamp) : Tracks (s.step move now).state.tracker.current :=
  (wellFormed_deed (step_deed s move now course.placed.told.numbered) tracks).1

/-- Over a run, the jobs given back are those whose ends the worker published, but for one that may be due. -/
theorem ends_run {due : List Snapshot} (course : Course known (sceneOf s) log) (tracks : Tracks s.tracker.current)
    (consistent : Consistent s.worker) (owed : Due s.worker due) (moves : List (Move × Timestamp))
    (fresh : (known ++ moves.flatMap (·.1.accepted)).Nodup) :
    ∃ finals later, due ++ ended (s.own moves) = finals ++ later ∧
      List.Forall₂ Matches (s.handbacks moves) finals ∧ Due (s.run moves).state.worker later := by
  induction moves generalizing known s log due with
  | nil => exact ⟨[], due, List.append_nil due, .nil, owed⟩
  | cons made rest ih =>
    obtain ⟨move, now⟩ := made
    rw [List.flatMap_cons, ← List.append_assoc] at fresh
    obtain ⟨consistentLater, first, between, same, firstMatches, owedLater⟩ :=
      (move_turn course tracks move now).ends consistent owed
    obtain ⟨finals, later, sameLater, matchesLater, owedLast⟩ :=
      ih (course.step move now (unknown_of_fresh fresh)) (tracks_step course tracks move now) consistentLater owedLater
        fresh
    refine ⟨first ++ finals, later, ?_, ?_, owedLast⟩
    · calc
        due ++ ended (s.own ((move, now) :: rest))
        _ = due ++ ended (s.ownStep move now) ++ ended ((s.step move now).state.own rest) := by
          rw [Service.own, ended, List.filter_append, List.append_assoc]
          rfl
        _ = first ++ (between ++ ended ((s.step move now).state.own rest)) := by rw [same, List.append_assoc]
        _ = first ++ finals ++ later := by rw [sameLater, List.append_assoc]
    · exact List.rel_append firstMatches matchesLater

/-- The queue frees the places of those who are given back, and of nobody else. -/
theorem released_step (course : Course known (sceneOf s) log) (move : Move) (now : Timestamp) :
    (s.booked move now).released = (s.givenBack move).map (·.job.id) := by
  cases move with
  | release =>
    simp only [Service.booked, Service.queueCall?, Service.givenBack]
    cases held : s.worker with
    | settled done =>
      have active : s.queue.activeId? = some done.job.id := by
        simpa [sceneOf, lineOf, held, phaseOf, jobOf] using course.held
      have free : (s.queue.finishActive done.job.id now).state.activeId? = none := by
        simp only [Queue.finishActive, active, ↓reduceIte]
        rfl
      simp [Queue.step, Queue.releasedBy, active, free]
    | _ => rfl
  | check =>
    simp only [Service.booked, Service.queueCall?, Service.givenBack]
    cases s.worker with
    | waiting => cases s.queue.isShutDown <;> rfl
    | _ => rfl
  | seek =>
    simp only [Service.booked, Service.queueCall?, Service.givenBack]
    cases s.worker <;> rfl
  | _ => rfl

theorem released_run (course : Course known (sceneOf s) log) (moves : List (Move × Timestamp))
    (fresh : (known ++ moves.flatMap (·.1.accepted)).Nodup) :
    (s.books moves).released = (s.handbacks moves).map (·.job.id) := by
  induction moves generalizing known s log with
  | nil => rfl
  | cons made rest ih =>
    obtain ⟨move, now⟩ := made
    rw [List.flatMap_cons, ← List.append_assoc] at fresh
    rw [Service.books, Ledger.released_append, released_step course move now,
      ih (course.step move now (unknown_of_fresh fresh)) fresh, Service.handbacks, List.map_append]

def tells (s : Service) (move : Move) : List TelemetryEvent :=
  (s.givenBack move).map (·.told s.settings.slowAfter) ++ (s.counted move).map .heartbeat

theorem telemetry_step (s : Service) (move : Move) (now : Timestamp) :
    (s.step move now).state.telemetry = s.telemetry ++ tells s move := by
  cases move with
  | release =>
    cases held : s.worker with
    | settled done =>
      simp [tells, Service.step, Outcome.silent, Service.release, Service.givenBack, Service.counted, held,
        Service.afterQueue, Settled.told]
    | _ => simp [tells, Service.step, Outcome.silent, Service.release, Service.givenBack, Service.counted, held]
  | beat =>
    cases held : s.worker <;> simp [tells, Service.step, Service.beat, Service.givenBack, Service.counted, held]
  | _ => exact (untold_step s (by simp) (by simp) now).2.trans (List.append_nil _).symm

/-- What was told of jobs that were given back, and how many waited after each. After the last one that may be due. -/
structure Tells (slowAfter : Nat) (backs : List Settled) (counts : List Nat) (worker : Worker)
    (told : List TelemetryEvent) (pairs : List Handback) (last : Option Settled) : Prop where
  told : told = pairs.flatMap (·.told slowAfter) ++ (last.map (·.told slowAfter)).toList
  backs : backs = pairs.map (·.settled) ++ last.toList
  counts : counts = pairs.map (·.waiting)
  rests : worker = .resting ↔ last.isSome = true

theorem Tells.turn {slowAfter : Nat} {backs back : List Settled} {before counts : List Nat} {worker after : Worker}
    {own : List Snapshot} {told : List TelemetryEvent} {pairs : List Handback} {last : Option Settled}
    (tells : Tells slowAfter backs before worker told pairs last) (turn : Turn worker after own back counts) :
    ∃ pairs last, Tells slowAfter (backs ++ back) (before ++ counts) after
      (told ++ (back.map (·.told slowAfter) ++ counts.map .heartbeat)) pairs last := by
  have unrested (busy : worker ≠ .resting) : last = none := by
    rw [← Option.not_isSome_iff_eq_none]
    exact mt tells.rests.mpr busy
  cases turn with
  | goesOn _ _ rests =>
    refine ⟨pairs, last, ?_, by simpa using tells.backs, by simpa using tells.counts, rests.trans tells.rests⟩
    simpa using tells.told
  | settles _ busy =>
    obtain rfl := unrested busy
    exact ⟨pairs, none, by simpa using tells.told, by simpa using tells.backs, by simpa using tells.counts, by simp⟩
  | @releases done _ held =>
    obtain rfl := unrested (by simp [held])
    refine ⟨pairs, some done, ?_, ?_, by simpa using tells.counts, by simp⟩
    · simp [tells.told]
    · simp [tells.backs]
  | @beats waiting rested =>
    obtain ⟨done, rfl⟩ := Option.isSome_iff_exists.mp (tells.rests.mp rested)
    refine ⟨pairs ++ [⟨done, waiting⟩], none, ?_, ?_, ?_, by simp⟩
    · simp [tells.told, Handback.told]
    · simp [tells.backs]
    · simp [tells.counts]

/-- What is told in a run are pairs of a job that was given back and of how many waited, but for one job that may be due. -/
theorem tells_run {earlier told : List TelemetryEvent} {slowAfter : Nat} {backs : List Settled} {counts : List Nat}
    {pairs : List Handback} {last : Option Settled} (course : Course known (sceneOf s) log)
    (tracks : Tracks s.tracker.current) (slow : s.settings.slowAfter = slowAfter) (before : s.telemetry = earlier ++ told)
    (telling : Tells slowAfter backs counts s.worker told pairs last) (moves : List (Move × Timestamp))
    (fresh : (known ++ moves.flatMap (·.1.accepted)).Nodup) :
    ∃ told pairs last, (s.run moves).state.telemetry = earlier ++ told ∧
      Tells slowAfter (backs ++ s.handbacks moves) (counts ++ s.counts moves) (s.run moves).state.worker told pairs last := by
  induction moves generalizing known s log backs counts told pairs last with
  | nil => exact ⟨told, pairs, last, before, by simpa [Service.handbacks, Service.counts, Service.run] using telling⟩
  | cons made rest ih =>
    obtain ⟨move, now⟩ := made
    rw [List.flatMap_cons, ← List.append_assoc] at fresh
    obtain ⟨pairs, last, next⟩ := telling.turn (move_turn course tracks move now)
    have same : (s.step move now).state.settings.slowAfter = slowAfter := by rw [settings_step, slow]
    have after := telemetry_step s move now
    rw [before, List.append_assoc, tells, slow] at after
    obtain ⟨told, pairs, last, telemetry, later⟩ := ih (course.step move now (unknown_of_fresh fresh))
      (tracks_step course tracks move now) same after next fresh
    refine ⟨told, pairs, last, telemetry, ?_⟩
    simpa only [Service.run, Service.handbacks, Service.counts, ← List.append_assoc] using later

end

def attribute? (event : TelemetryEvent) (name : String) : Option AttributeValue := event.span.attributes.lookup name

def WarnsSlow (event : TelemetryEvent) : Prop :=
  ∃ line ∈ event.logs, line.level = .warn ∧ line.message = "Export job exceeded duration threshold"

/-- A span of a job and the snapshot of its end say the same. A duration is a number of 64 bits. -/
structure Agrees (slowAfter : Nat) (event : TelemetryEvent) (final : Snapshot) : Prop where
  about : attribute? event "job_id" = some (.text final.jobId.text)
  status : attribute? event "status" = some (.text final.status.name)
  failed : final.error.isSome = true ↔ final.status = .failed
  code : attribute? event "error.code" = final.error.map (.text ·.code)
  message : attribute? event "error.message" = final.error.map (.text ·.message)
  slow : ∃ ms, attribute? event "duration_ms" = some (.number ms) ∧
    (ms ≤ 9223372036854775807 → (WarnsSlow event ↔ slowAfter < ms))

section
variable {done : Settled} {final : Snapshot}

private theorem toldError_of_matches (ends : Matches done final) :
    TelemetryEvent.toldError done.job done.error = final.error := by
  unfold TelemetryEvent.toldError
  split
  · exact ends.error
  next other =>
    rw [ends.status] at other
    exact (Option.not_isSome_iff_eq_none.mp (mt ends.failed.mp other)).symm

theorem warnsSlow_iff {job : Job} {error : Option JobError} {slowAfter : Nat} {ms : Int}
    (measured : job.durationMillis = some ms) :
    WarnsSlow (.jobEnded job error slowAfter) ↔ TelemetryEvent.threshold slowAfter < ms := by
  simp only [WarnsSlow, TelemetryEvent.logs, measured, Option.map_some, Option.getD_some, TelemetryEvent.durationLines]
  constructor
  · rintro ⟨line, member, warns, slow⟩
    rcases List.mem_append.mp member with lines | blame
    · rcases List.mem_cons.mp lines with rfl | warning
      · cases warns
      · split at warning
        next exceeds => exact exceeds
        next => cases warning
    · cases failed : TelemetryEvent.toldError job error with
      | none => simp [failed] at blame
      | some e =>
        rw [failed] at blame
        obtain rfl := List.mem_singleton.mp blame
        simp at slow
  · intro exceeds
    rw [if_pos exceeds]
    exact ⟨_, List.mem_append_left _ (List.mem_cons_of_mem _ List.mem_cons_self), rfl, rfl⟩

private theorem agrees_of_matches (ends : Matches done final) (slowAfter : Nat) :
    Agrees slowAfter (done.told slowAfter) final := by
  obtain ⟨ms, measured⟩ := Option.isSome_iff_exists.mp ends.measured
  have error := toldError_of_matches ends
  unfold Settled.told
  refine ⟨?_, ?_, ends.failed, ?_, ?_, ms, ?_, fun small => ?_⟩
  · simp [attribute?, TelemetryEvent.span, ends.id]
  · simp [attribute?, TelemetryEvent.span, List.lookup_cons, ends.status]
  · simp only [attribute?, TelemetryEvent.span, error, measured]
    cases final.error <;> simp [List.lookup_cons]
  · simp only [attribute?, TelemetryEvent.span, error, measured]
    cases final.error <;> simp [List.lookup_cons]
  · simp [attribute?, TelemetryEvent.span, List.lookup_cons, measured]
  · rw [warnsSlow_iff measured, TelemetryEvent.threshold]
    omega

end

private theorem spans_told (pairs : List Handback) (last : Option Settled) (slowAfter : Nat) :
    (pairs.flatMap (·.told slowAfter) ++ (last.map (·.told slowAfter)).toList).filter (·.span.name = "export_job") =
      (pairs.map (·.settled) ++ last.toList).map (·.told slowAfter) := by
  have spans (done : Settled) : (done.told slowAfter).span.name = "export_job" := rfl
  have beats (waiting : Nat) : (TelemetryEvent.heartbeat waiting).span.name = "worker_heartbeat" := rfl
  induction pairs with
  | nil => cases last <;> simp [spans]
  | cons back rest ih =>
    have own : (back.told slowAfter).filter (·.span.name = "export_job") = [back.settled.told slowAfter] := by
      simp [Handback.told, spans, beats]
    rw [List.flatMap_cons, List.append_assoc, List.filter_append, own, ih]
    rfl

private theorem ended_eq_singleton {story : List Snapshot} (ordered : story.Pairwise Follows) {final : Snapshot}
    (member : final ∈ story) (terminal : final.status.isTerminal = true) : ended story = [final] := by
  obtain ⟨before, after, rfl⟩ := List.append_of_mem member
  obtain ⟨-, tail, across⟩ := List.pairwise_append.mp ordered
  have last : after = [] := by
    refine List.eq_nil_iff_forall_not_mem.mpr fun later inside => ?_
    exact absurd terminal (by simp [((List.pairwise_cons.mp tail).1 later inside).goesOn])
  have unended : ended before = [] := ended_eq_nil fun t earlier => (across t earlier final List.mem_cons_self).goesOn
  rw [ended, List.filter_append, ← ended, unended, last]
  simp [terminal]

/-- What the worker told in a run, beside what was published in it. Of each job that was given back one span is told, which
says what the only end of the job says, and then how many others wait; of who was removed while it waited, nothing. -/
structure Telling (s : Service) (moves : List (Move × Timestamp)) (told : List TelemetryEvent) (pairs : List Handback)
    (last : Option Settled) (finals due : List Snapshot) : Prop where
  telemetry : (s.run moves).state.telemetry = s.telemetry ++ told
  tells : Tells s.settings.slowAfter (s.handbacks moves) (s.counts moves) (s.run moves).state.worker told pairs last
  counted : ∀ waiting ∈ s.counts moves, waiting < 9223372036854775808 →
    attribute? (.heartbeat waiting) "queue_length" = some (.number waiting)
  ends : ended (s.own moves) = finals ++ due
  due : Due (s.run moves).state.worker due
  spans : List.Forall₂ (Agrees s.settings.slowAfter) (told.filter (·.span.name = "export_job")) finals
  once : ∀ final ∈ finals, ended (story final.jobId (s.run moves).published) = [final]
  released : finals.map (·.jobId) = (s.books moves).released
  removed : ∀ id ∈ (s.books moves).removed, ∀ event ∈ told, attribute? event "job_id" ≠ some (.text id.text)

private theorem ended_once {s : Service} (empty : s.Empty) {moves : List (Move × Timestamp)}
    (fresh : (moves.flatMap (·.1.accepted)).Nodup) {final : Snapshot} (own : final ∈ ended (s.own moves)) :
    ended (story final.jobId (s.run moves).published) = [final] := by
  obtain ⟨published, terminal⟩ := List.mem_filter.mp own
  obtain ⟨lifecycle, unknown⟩ := published_lifecycle s empty moves fresh final.jobId
  have inside : final ∈ story final.jobId (s.run moves).published :=
    List.mem_filter.mpr ⟨s.own_subset moves published, decide_eq_true rfl⟩
  by_cases accepted : final.jobId ∈ moves.flatMap (·.1.accepted)
  · exact ended_eq_singleton (lifecycle accepted).ordered inside terminal
  · rw [unknown accepted] at inside
    cases inside

private theorem given_of_told {slowAfter : Nat} {backs : List Settled} {counts : List Nat} {worker : Worker}
    {told : List TelemetryEvent} {pairs : List Handback} {last : Option Settled}
    (tells : Tells slowAfter backs counts worker told pairs last) {event : TelemetryEvent} (member : event ∈ told)
    {id : JobId} (about : attribute? event "job_id" = some (.text id.text)) : id ∈ backs.map (·.job.id) := by
  have named {done : Settled} (about : attribute? (done.told slowAfter) "job_id" = some (.text id.text)) :
      done.job.id = id := by
    have same : done.job.id.text = id.text := by simpa [attribute?, Settled.told, TelemetryEvent.span] using about
    exact congrArg JobId.mk same
  rw [tells.told] at member
  rw [tells.backs, List.map_append]
  rcases List.mem_append.mp member with paired | single
  · obtain ⟨back, given, told⟩ := List.mem_flatMap.mp paired
    simp only [Handback.told, List.mem_cons, List.not_mem_nil, or_false] at told
    rcases told with rfl | rfl
    · exact List.mem_append_left _ (List.mem_map.mpr ⟨_, List.mem_map.mpr ⟨back, given, rfl⟩, named about⟩)
    · cases about
  · obtain ⟨done, rfl, rfl⟩ : ∃ done, last = some done ∧ done.told slowAfter = event := by simpa using single
    exact List.mem_append_right _ (List.mem_map.mpr ⟨done, by simp, named about⟩)

/-- Whatever happens to a service, and however its exports end: the worker tells of the jobs that it ended, one by one
and in their order, what the snapshots of their ends say, and after each how many wait. -/
theorem telemetry_agrees (s : Service) (empty : s.Empty) (moves : List (Move × Timestamp))
    (fresh : (moves.flatMap (·.1.accepted)).Nodup) :
    ∃ told pairs last finals due, Telling s moves told pairs last finals due := by
  have initial := Course.initial empty
  have known : (([] : List JobId) ++ moves.flatMap (·.1.accepted)).Nodup := by simpa using fresh
  have tracks : Tracks s.tracker.current := by simp [Tracks, empty.tracker]
  have consistent : Consistent s.worker := by rw [empty.worker]; trivial
  have owed : Due s.worker [] := .nothing (by simp [empty.worker])
  have silent : Tells s.settings.slowAfter [] [] s.worker [] [] none := ⟨rfl, rfl, rfl, by simp [empty.worker]⟩
  obtain ⟨finals, due, ends, paired, owes⟩ := ends_run initial tracks consistent owed moves known
  obtain ⟨told, pairs, last, telemetry, tells⟩ :=
    tells_run initial tracks rfl (List.append_nil s.telemetry).symm silent moves known
  rw [List.nil_append] at ends
  rw [List.nil_append, List.nil_append] at tells
  have released := released_run initial moves known
  have about : List.Forall₂ (· = ·) ((s.handbacks moves).map (·.job.id)) (finals.map (·.jobId)) := by
    rw [List.forall₂_map_left_iff, List.forall₂_map_right_iff]
    exact paired.imp fun _ _ ends => ends.id
  rw [List.forall₂_eq_eq_eq] at about
  refine ⟨told, pairs, last, finals, due, telemetry, tells, ?_, ends, owes, ?_,
    fun final inside => ended_once empty fresh (ends ▸ List.mem_append_left _ inside), ?_, ?_⟩
  · intro waiting _ few
    have count : Int.bmod waiting 18446744073709551616 = waiting := by
      rw [Int.bmod_def]
      omega
    simp [attribute?, TelemetryEvent.span, count]
  · rw [tells.told, spans_told, ← tells.backs]
    exact List.forall₂_map_left_iff.mpr (paired.imp fun _ _ ends => agrees_of_matches ends _)
  · rw [released, about]
  · intro id removed event member same
    have balanced := balanced_moves (balanced_initial empty) moves known
    rw [Ledger.empty_append] at balanced
    refine (balanced.kept (balanced.removed removed)).mp (List.mem_append_left _ ?_) removed
    rw [released]
    exact given_of_told tells member same

/-- Of four jobs one is withdrawn while it waits. Of the others one takes three seconds and is completed, one fails,
with a trace, and one fails after it was cancelled and is not given back yet. -/
def threeEnds : List (Move × Timestamp) :=
  [.accept ⟨"a"⟩ default, .accept ⟨"b"⟩ default, .accept ⟨"c"⟩ default, .accept ⟨"d"⟩ default, .startWorker, .check, .seek,
      .begin, .cancel (some ⟨"c"⟩)].map (·, ⟨0, 0⟩) ++
    [.conclude (.finished {}), .settle true, .release, .beat, .check, .seek, .begin, .conclude (.panicked none), .settle true,
      .release, .beat, .check, .seek, .begin, .cancel none, .conclude (.failed (.auth "late")), .settle true].map (·, ⟨3, 0⟩)

def hurried : Service := { settings := { traceDir := some "/t", slowAfter := 2000 } }

theorem telemetry_agrees_three_ends :
    (threeEnds.flatMap (·.1.accepted)).Nodup ∧
      (hurried.run threeEnds).state.telemetry.map (fun event =>
        (attribute? event "status", attribute? event "error.code", attribute? event "queue_length")) =
        [(some (.text "completed"), none, none), (none, none, some (.number 2)),
          (some (.text "failed"), some (.text "internal_error"), none), (none, none, some (.number 1))] ∧
      (hurried.run threeEnds).state.telemetry.map (fun event => (event.logs.map (·.message))) =
        [["Export job finished", "Export job exceeded duration threshold"], ["Worker heartbeat"],
          ["Export job finished", "Export job failed"], ["Worker heartbeat"]] ∧
      ∃ told pairs last finals due, Telling hurried threeEnds told pairs last finals due := by
  have fresh : (threeEnds.flatMap (·.1.accepted)).Nodup := by decide
  refine ⟨fresh, by decide +kernel, by decide +kernel, ?_⟩
  exact telemetry_agrees hurried ⟨rfl, rfl, rfl, rfl, rfl, rfl⟩ threeEnds fresh

end BookExport.Proofs.TelemetrySpans
