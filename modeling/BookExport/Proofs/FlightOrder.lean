import BookExport.Proofs.ActivePlace
import BookExport.Proofs.QueueHistory

/-! A job is exported as if its reports were applied one after the other, with nothing between them: neither the
order of sends and receives nor what clients do meanwhile shows in what the worker publishes about it. -/

namespace BookExport.Proofs.FlightOrder
open QueuePositions BroadcasterMemory JobStories ServiceDeeds JobPlacement SequentialReports FlightSteps QueueHistory
open ActivePlace

/-- The moves from a claim to the release. The worker's turns stand between moves that anybody may make in any order.
The export reports and the worker receives throughout the flight; what is left is received while it lands. -/
structure Passage where
  before : List (Move × Timestamp)
  began : Timestamp
  flight : List (Move × Timestamp)
  result : ExportResult
  concluded : Timestamp
  landing : List (Move × Timestamp)
  drained : List Timestamp
  canWrite : Bool
  judged : Timestamp
  verdict : List (Move × Timestamp)
  ended : Timestamp
  after : List (Move × Timestamp)
  released : Timestamp
  unbegun : ∀ made ∈ before, made.1 ≠ .begin
  unconcluded : ∀ made ∈ flight, ∀ result, made.1 ≠ .conclude result
  unjudged : ∀ made ∈ landing, ∀ canWrite, made.1 ≠ .judge canWrite ∧ made.1 ≠ .settle canWrite
  emptied : (flight.flatMap (·.1.reported)).length ≤ drained.length
  unended : ∀ made ∈ verdict, made.1 ≠ .finish ∧ ∀ canWrite, made.1 ≠ .settle canWrite
  unreleased : ∀ made ∈ before ++ flight ++ landing ++ verdict ++ after, made.1 ≠ .release

namespace Passage

def sending (p : Passage) : List (Move × Timestamp) :=
  p.before ++ (.begin, p.began) :: p.flight ++ [(.conclude p.result, p.concluded)]

def flown (p : Passage) : List (Move × Timestamp) :=
  p.sending ++ (p.landing ++ p.drained.map fun now => (.deliver, now))

def ending (p : Passage) : List (Move × Timestamp) :=
  (.judge p.canWrite, p.judged) :: p.verdict ++ (.finish, p.ended) :: p.after

def moves (p : Passage) : List (Move × Timestamp) := p.flown ++ p.ending ++ [(.release, p.released)]

/-- A passage at one moment, in which nobody moves but the worker and whoever does so during the flight. -/
def brief (flight : List (Move × Timestamp)) (result : ExportResult) (received : Nat) (canWrite : Bool)
    (now : Timestamp) (goesOn : ∀ made ∈ flight, made.1 ≠ .release ∧ ∀ result, made.1 ≠ .conclude result)
    (emptied : (flight.flatMap (·.1.reported)).length ≤ received) : Passage where
  before := []
  began := now
  flight := flight
  result := result
  concluded := now
  landing := []
  drained := List.replicate received now
  canWrite := canWrite
  judged := now
  verdict := []
  ended := now
  after := []
  released := now
  unbegun := by simp
  unconcluded made member := (goesOn made member).2
  unjudged := by simp
  emptied := by simpa using emptied
  unended := by simp
  unreleased made member := (goesOn made (by simpa using member)).1

end Passage

private theorem run_cons (s : Service) (move : Move) (now : Timestamp) (rest : List (Move × Timestamp)) :
    (s.run ((move, now) :: rest)).state = ((s.step move now).state.run rest).state := rfl

private theorem run_both (s : Service) (first rest : List (Move × Timestamp)) :
    (s.run (first ++ rest)).state = ((s.run first).state.run rest).state := (s.run_append first rest).1

private theorem begin_aloft {s : Service} {claim : Claim} (claimed : s.worker = .claimed claim) (now : Timestamp) :
    Aloft claim.job claim.token now none [] [] (s.step .begin now).state ∧
      s.ownStep .begin now = [.starting claim.job now] := by
  refine ⟨⟨[], [], .starting claim.job now, ?_, rfl, rfl, ?_⟩, ?_⟩
  · simp only [Service.step, Service.begin, claimed]
  · simp only [Service.step, Service.begin, claimed]
    exact ⟨_, rfl, .refl _⟩
  · simp only [Service.ownStep, Move.isWorkers, ↓reduceIte, Service.step, Service.begin, claimed]
    rfl

private theorem conclude_aloft {s : Service} {job : Job} {token : CancelToken} {began : Timestamp}
    {sent : List ProgressUpdate} {published : List Snapshot} (aloft : Aloft job token began none sent published s)
    (result : ExportResult) (now : Timestamp) :
    Aloft job token began (some result) sent published (s.step (.conclude result) now).state := by
  obtain ⟨delivered, inbox, reference, worker, split, same, tracks⟩ := aloft
  refine ⟨delivered, inbox, reference, ?_, split, same, ?_⟩
  · simp [Service.step, Service.conclude, worker]
  · simpa [Service.step, Service.conclude, worker] using tracks

private theorem landed_aloft {s : Service} {job : Job} {token : CancelToken} {began : Timestamp} {result : ExportResult}
    {sent : List ProgressUpdate} {published : List Snapshot}
    (aloft : Aloft job token began (some result) sent published s) (landing : List (Move × Timestamp))
    (unjudged : ∀ made ∈ landing, ∀ canWrite, made.1 ≠ .judge canWrite ∧ made.1 ≠ .settle canWrite)
    (times : List Timestamp) (enough : sent.length ≤ times.length) :
    let moves := landing ++ times.map fun now => (Move.deliver, now)
    Aloft job token began (some result) sent (published ++ s.own moves) (s.run moves).state ∧
      (s.run moves).state.worker = .running ⟨job, token, [], some result⟩ := by
  have nothing (moves : List (Move × Timestamp)) : (moves.flatMap fun made => sends (some result) made.1) = [] := by
    simp [sends]
  have landed := aloft.run landing fun made member => by
    obtain ⟨move, now⟩ := made
    cases move with
    | judge canWrite => exact absurd rfl (unjudged _ member canWrite).1
    | settle canWrite => exact absurd rfl (unjudged _ member canWrite).2
    | _ => rfl
  have received := landed.run (times.map fun now => (Move.deliver, now)) fun made member => by
    obtain ⟨now, -, rfl⟩ := List.mem_map.mp member
    rfl
  rw [nothing, List.append_nil] at landed
  rw [nothing, nothing, List.append_nil, List.append_nil] at received
  refine ⟨?_, ?_⟩
  · rw [Service.own_append, run_both, ← List.append_assoc]
    exact received
  · obtain ⟨delivered, inbox, reference, worker, split, -⟩ := landed
    rw [run_both]
    apply drained worker
    have length := congrArg List.length split
    simp only [List.length_append, List.length_map] at length
    omega

theorem begun_aloft (p : Passage) {s : Service} {claim : Claim} (claimed : s.worker = .claimed claim) :
    Aloft claim.job claim.token p.began none [] [] (s.run (p.before ++ [(.begin, p.began)])).state ∧
      s.own (p.before ++ [(.begin, p.began)]) = [.starting claim.job p.began] := by
  obtain ⟨aside, quiet⟩ := rest_run s p.before (by simp [claimed, phaseOf]) fun made member => by
    obtain ⟨move, now⟩ := made
    rw [claimed]
    cases move with
    | begin => exact absurd rfl (p.unbegun _ member)
    | _ => rfl
  obtain ⟨begun, opening⟩ := begin_aloft (aside.worker.trans claimed) p.began
  refine ⟨?_, ?_⟩
  · rw [run_both]
    exact begun
  · rw [Service.own_append, quiet, Service.own, opening]
    rfl

private theorem sending_aloft (p : Passage) {s : Service} {claim : Claim} (claimed : s.worker = .claimed claim) :
    ∃ published, s.own p.sending = .starting claim.job p.began :: published ∧
      Aloft claim.job claim.token p.began (some p.result) (p.flight.flatMap (·.1.reported)) published
        (s.run p.sending).state := by
  obtain ⟨begun, opening⟩ := begun_aloft p claimed
  have flying := begun.run p.flight fun made member => by
    obtain ⟨move, now⟩ := made
    cases move with
    | conclude result => exact absurd rfl (p.unconcluded _ member result)
    | _ => rfl
  have sending : p.sending = (p.before ++ [(.begin, p.began)]) ++ (p.flight ++ [(.conclude p.result, p.concluded)]) := by
    simp [Passage.sending]
  refine ⟨(s.run (p.before ++ [(.begin, p.began)])).state.own p.flight, ?_, ?_⟩
  · rw [sending, Service.own_append s (_ ++ _), opening, Service.own_append]
    simp [Service.own, Service.ownStep, Move.isWorkers]
  · rw [sending, run_both s (_ ++ _), run_both _ p.flight]
    exact conclude_aloft flying p.result p.concluded

/-- When the inbox is empty, all reports are delivered in the order in which they were sent. -/
theorem flown_aloft (p : Passage) {s : Service} {claim : Claim} (claimed : s.worker = .claimed claim) :
    ∃ delivered reference published,
      (s.run p.flown).state.worker = .running ⟨claim.job, claim.token, [], some p.result⟩ ∧
      delivered.map Prod.fst = p.flight.flatMap (·.1.reported) ∧
      reported claim.job p.began delivered = ⟨⟨some reference⟩, (), published⟩ ∧
      Tracks (s.run p.flown).state.tracker reference ∧
      s.own p.flown = .starting claim.job p.began :: published := by
  obtain ⟨published, opening, sending⟩ := sending_aloft p claimed
  obtain ⟨landed, empty⟩ := landed_aloft sending p.landing p.unjudged p.drained p.emptied
  obtain ⟨delivered, inbox, reference, worker, split, same, tracks⟩ := landed
  have received : inbox = [] := by
    rw [worker] at empty
    cases empty
    rfl
  subst received
  rw [Passage.flown, run_both]
  refine ⟨delivered, reference, _, worker, by simpa using split, same, tracks, ?_⟩
  rw [Service.own_append, opening, List.cons_append]

def FailsWith (final : Snapshot) (code message : String) : Prop :=
  final.status = .failed ∧ ∃ error, final.error = some error ∧ error.code = code ∧ error.message = message

/-- How a job ends. An error counts as a cancellation when it is one or when the job was cancelled. -/
def Ends (final : Snapshot) (isCancelled : Bool) : ExportResult → Prop
  | .finished outputs =>
    final.status = .completed ∧ final.percentage = 100 ∧ final.outputs = outputs.files ∧ final.title = outputs.title
  | .failed error =>
    if error.isCancelled || isCancelled then final.status = .cancelled else FailsWith final error.code error.message
  | .panicked payload =>
    if isCancelled then final.status = .cancelled
    else FailsWith final "internal_error"
      ("internal error: " ++ ("export task panicked: " ++ payload.getD "unknown panic payload"))

private theorem failure_fails (s : Snapshot) (job : Job) (error : ExportError) (traceDir : Option String)
    (canWrite : Bool) (judged now : Timestamp) :
    FailsWith (s.after (Verdict.failure job error traceDir canWrite judged).event now) error.code error.message := by
  unfold Verdict.failure
  simp only
  split
  · exact ⟨rfl, _, rfl, rfl, rfl⟩
  · exact ⟨rfl, _, rfl, rfl, rfl⟩

theorem verdict_ends {s : Snapshot} (untitled : s.title = none) (job : Job) (result : ExportResult) (isCancelled : Bool)
    (traceDir : Option String) (canWrite : Bool) (judged now : Timestamp) :
    Ends (s.after (Verdict.ofResult job result.toExcept isCancelled traceDir canWrite judged).event now) isCancelled
      result := by
  cases result with
  | finished outputs =>
    refine ⟨rfl, rfl, rfl, ?_⟩
    simp only [ExportResult.toExcept, Verdict.ofResult, Snapshot.after, untitled, Option.or_none]
  | failed error =>
    simp only [Ends, ExportResult.toExcept, Verdict.ofResult]
    split
    · rfl
    · exact failure_fails ..
  | panicked payload =>
    simp only [Ends, ExportResult.toExcept, Verdict.ofResult, ExportError.isCancelled, Bool.false_or]
    split
    · rfl
    · exact failure_fails ..

theorem status_after {event : JobEvent} {status : Status} (ends : event.end? = some status) (s : Snapshot)
    (now : Timestamp) : (s.after event now).status = status := by
  cases event with
  | progress | cancelRequested => cases ends
  | completed | cancelled | failed => exact Option.some.inj ends

private theorem judge_judges {s : Service} {job : Job} {token : CancelToken} {result : ExportResult}
    (worker : s.worker = .running ⟨job, token, [], some result⟩) (canWrite : Bool) (now : Timestamp) :
    let after := (s.step (.judge canWrite) now).state
    after.worker = .judged job (Verdict.ofResult job result.toExcept (s.queue.signals.isCancelled token)
      s.settings.traceDir canWrite now) ∧
      after.tracker = s.tracker ∧ s.ownStep (.judge canWrite) now = [] := by
  simp only [Service.ownStep, Move.isWorkers, ↓reduceIte, Service.step, Outcome.silent, Service.judge, worker, and_self]

private theorem finish_settles {s : Service} {job : Job} {verdict : Verdict} (worker : s.worker = .judged job verdict)
    {reference : Snapshot} (isOpen : Open job reference) (tracks : Tracks s.tracker reference) (now : Timestamp) :
    (s.step .finish now).state.worker = .settled ⟨job.finish verdict.status now, verdict.error⟩ ∧
      s.ownStep .finish now = [reference.after verdict.event now] := by
  have other : verdict.event ≠ .cancelRequested := by
    intro same
    have ends := verdict.ends
    rw [same] at ends
    cases ends
  have ends : verdict.event.end?.isSome = true := by rw [verdict.ends]; rfl
  have accepted : reference.accepts verdict.event = true := by
    rw [accepts_ending ends, isTerminal_of_isActive isOpen.active]
    rfl
  obtain ⟨-, -, published, -⟩ := tracks.record job.id verdict.event other now
  refine ⟨?_, ?_⟩
  · simp only [Service.step, Service.finish, worker]
  · simp only [Service.ownStep, Move.isWorkers, ↓reduceIte, Service.step, Service.finish, worker, Service.afterTracker,
      published]
    simp [Tracker.record, Tracker.next?, isOpen.about, accepted]

/-- Once the inbox is empty, the job is judged as it stands then, and what is published is the end that the verdict
means, whatever clients do in between. -/
theorem ending_follows (p : Passage) {s : Service} {job : Job} {token : CancelToken}
    (worker : s.worker = .running ⟨job, token, [], some p.result⟩) {reference : Snapshot} (isOpen : Open job reference)
    (tracks : Tracks s.tracker reference) :
    let verdict := Verdict.ofResult job p.result.toExcept (s.queue.signals.isCancelled token) s.settings.traceDir
      p.canWrite p.judged
    (s.run p.ending).state.worker = .settled ⟨job.finish verdict.status p.ended, verdict.error⟩ ∧
      s.own p.ending = [reference.after verdict.event p.ended] := by
  obtain ⟨judged, kept, silent⟩ := judge_judges worker p.canWrite p.judged
  generalize Verdict.ofResult job p.result.toExcept (s.queue.signals.isCancelled token) s.settings.traceDir p.canWrite
    p.judged = verdict at judged
  obtain ⟨waits, quiet⟩ := rest_run _ p.verdict (by rw [judged]; simp [phaseOf]) fun made member => by
    obtain ⟨move, now⟩ := made
    rw [judged]
    cases move with
    | finish => exact absurd rfl (p.unended _ member).1
    | settle canWrite => exact absurd rfl ((p.unended _ member).2 canWrite)
    | _ => rfl
  obtain ⟨settled, final⟩ := finish_settles (waits.worker.trans judged) isOpen
    (waits.tracks reference (by rwa [kept])) p.ended
  obtain ⟨rests, still⟩ := rest_run _ p.after (by rw [settled]; simp [phaseOf]) fun made member => by
    obtain ⟨move, now⟩ := made
    rw [settled]
    cases move with
    | release => exact absurd rfl (p.unreleased (.release, now) (by simp [member]))
    | _ => rfl
  refine ⟨?_, ?_⟩
  · rw [Passage.ending, run_both, run_cons, run_cons, rests.worker, settled]
  · rw [Passage.ending, Service.own_append, Service.own, silent, quiet, run_cons, Service.own, final, still]
    rfl

theorem ending_settles (p : Passage) {s : Service} {job : Job} {token : CancelToken}
    (worker : s.worker = .running ⟨job, token, [], some p.result⟩) {reference : Snapshot} (isOpen : Open job reference)
    (tracks : Tracks s.tracker reference) :
    ∃ final error, (s.run p.ending).state.worker = .settled ⟨job.finish final.status p.ended, error⟩ ∧
      s.own p.ending = [final] ∧ final.jobId = job.id ∧ Ends final (s.queue.signals.isCancelled token) p.result := by
  obtain ⟨settled, own⟩ := ending_follows p worker isOpen tracks
  have means := verdict_ends isOpen.untitled job p.result (s.queue.signals.isCancelled token) s.settings.traceDir
    p.canWrite p.judged p.ended
  rw [← status_after (Verdict.ends _) reference p.ended] at settled
  exact ⟨_, _, settled, own, (jobId_after ..).trans isOpen.about, means⟩

/-- What the worker publishes from the start of a job to its end, and how it gives the job back. -/
theorem flight_course (p : Passage) {s : Service} {claim : Claim} (claimed : s.worker = .claimed claim) :
    let flown := (s.run p.flown).state
    let verdict := Verdict.ofResult claim.job p.result.toExcept (flown.queue.signals.isCancelled claim.token)
      flown.settings.traceDir p.canWrite p.judged
    (s.run (p.flown ++ p.ending)).state.worker =
        .settled ⟨claim.job.finish verdict.status p.ended, verdict.error⟩ ∧
      ∃ delivered last, delivered.map Prod.fst = p.flight.flatMap (·.1.reported) ∧
        (reported claim.job p.began delivered).state = ⟨some last⟩ ∧
        s.own (p.flown ++ p.ending) = .starting claim.job p.began ::
          (reported claim.job p.began delivered).published ++ [last.after verdict.event p.ended] := by
  obtain ⟨delivered, reference, published, flying, sent, same, tracks, opening⟩ := flown_aloft p claimed
  obtain ⟨last, follows, isOpen, -⟩ := recordAll_open (open_starting claim.job p.began) delivered
  have isLast : last = reference := by
    have state := congrArg Outcome.state same
    rw [reported, follows] at state
    cases state
    rfl
  subst isLast
  obtain ⟨settled, ending⟩ := ending_follows p flying isOpen tracks
  refine ⟨?_, delivered, last, sent, follows, ?_⟩
  · rw [run_both]
    exact settled
  · rw [Service.own_append, opening, ending, same]

theorem unreleased_until (p : Passage) : ∀ made ∈ p.flown ++ p.ending, made.1 ≠ .release := by
  intro made member same
  have elsewhere : made ∉ p.before ++ p.flight ++ p.landing ++ p.verdict ++ p.after :=
    fun inside => p.unreleased made inside same
  simp only [List.mem_append, not_or] at elsewhere
  simp only [Passage.flown, Passage.sending, Passage.ending, List.mem_append, List.mem_cons, List.mem_map,
    List.not_mem_nil, or_false, elsewhere, false_or] at member
  rcases member with ((rfl | rfl) | ⟨now, -, rfl⟩) | rfl | rfl <;> cases same

private theorem release_frees {known : List JobId} {s : Service} {job : Job} {error : Option JobError}
    (worker : s.worker = .settled ⟨job, error⟩) (held : Held known job.id s) (now : Timestamp) :
    (s.release now).answer = some job ∧ (s.release now).state.queue.active = none ∧
      story job.id (s.ownStep .release now) = [] := by
  obtain ⟨other, -⟩ | ⟨-, -, after, published⟩ := finishActive_cases s.queue job.id now held.numbered
  · exact absurd held.active other
  · have free : (s.queue.finishActive job.id now).state.activeId? = none := congrArg Line.active after
    simp only [Service.ownStep, Move.isWorkers, ↓reduceIte, Service.step, Outcome.silent, Service.release, worker,
      Service.afterQueue, published]
    refine ⟨trivial, Option.map_eq_none_iff.mp free, ?_⟩
    apply story_queued_absent
    rw [ids_moveUp]
    exact held.gone.2

private theorem held_initial {calls : List (QueueCall × Timestamp)} {s : Service} {claim : Claim}
    (reached : s.queue = (Queue.run {} calls).state) (active : s.queue.activeId? = some claim.job.id)
    (claimed : s.worker = .claimed claim) (fresh : (calls.flatMap (·.1.accepted)).Nodup) :
    Held (calls.flatMap (·.1.accepted)) claim.job.id s := by
  obtain ⟨balanced, entered⟩ := balanced_run calls fresh
  rw [← reached, active] at balanced
  refine ⟨?_, ?_, active, by simp [claimed, phaseOf]⟩
  · rw [reached]
    exact numbered_run (show (lineOf {}).Numbered from trivial) calls
  · rw [← entered]
    exact balanced.active

/-- Whatever is done to a service while a job is exported, and however the export's sends and the worker's receives
interleave: what the worker publishes about the job is its start, what the reports lead to one after the other, and
one end. The job is given back in that end's status, and its place is free. -/
theorem flight_in_order (calls : List (QueueCall × Timestamp)) (s : Service) (claim : Claim)
    (reached : s.queue = (Queue.run {} calls).state) (active : s.queue.activeId? = some claim.job.id)
    (claimed : s.worker = .claimed claim) (p : Passage)
    (fresh : (calls.flatMap (·.1.accepted) ++ p.moves.flatMap (·.1.accepted)).Nodup) :
    let flown := (s.run p.flown).state
    let released := (flown.run p.ending).state.release p.released
    ∃ delivered final job,
      delivered.map Prod.fst = p.flight.flatMap (·.1.reported) ∧
      story claim.job.id (s.own p.moves) =
        .starting claim.job p.began :: (reported claim.job p.began delivered).published ++ [final] ∧
      Ends final (flown.queue.signals.isCancelled claim.token) p.result ∧
      released.answer = some job ∧ job.status = final.status ∧ released.state.queue.active = none := by
  obtain ⟨delivered, reference, published, flying, sent, same, tracks, first⟩ := flown_aloft p claimed
  obtain ⟨last, follows, isOpen, about⟩ := recordAll_open (open_starting claim.job p.began) delivered
  have isLast : last = reference := by
    have state := congrArg Outcome.state same
    rw [reported, follows] at state
    cases state
    rfl
  subst isLast
  obtain ⟨final, error, settled, second, aboutFinal, ends⟩ := ending_settles p flying isOpen tracks
  have together : (s.run (p.flown ++ p.ending)).state = ((s.run p.flown).state.run p.ending).state := run_both ..
  have unlisted : (calls.flatMap (·.1.accepted) ++ (p.flown ++ p.ending).flatMap (·.1.accepted)).Nodup := by
    simpa [Passage.moves, Move.accepted] using fresh
  have held := (held_initial reached active claimed (List.nodup_append.mp fresh).1).run _ (unreleased_until p) unlisted
  rw [together] at held
  obtain ⟨answer, free, others⟩ := release_frees settled held p.released
  have told : ∀ t ∈ .starting claim.job p.began :: (reported claim.job p.began delivered).published ++ [final],
      t.jobId = claim.job.id := by
    intro t member
    simp only [List.cons_append, List.mem_cons, List.mem_append, List.not_mem_nil, or_false] at member
    rcases member with rfl | reported | rfl
    · rfl
    · exact about t reported
    · exact aboutFinal
  refine ⟨delivered, final, _, sent, ?_, ends, answer, rfl, free⟩
  have own : s.own p.moves =
      .starting claim.job p.began :: (reported claim.job p.began delivered).published ++ [final] ++
        ((s.run p.flown).state.run p.ending).state.ownStep .release p.released := by
    rw [Passage.moves, Service.own_append, Service.own_append, first, second, together, same, Service.own, Service.own,
      List.append_nil]
  rw [own, story_append, story_eq_self told]
  exact (congrArg _ others).trans (List.append_nil _)

def oneClaimed : List (QueueCall × Timestamp) := [.enqueue ⟨"a"⟩ default, .next].map (·, default)

def firstClaim : Claim := ⟨(Job.create ⟨"a"⟩ default 0 default).start default, ⟨0, true⟩, []⟩

def claimedService : Service := { queue := (Queue.run {} oneClaimed).state, worker := .claimed firstClaim }

/-- The second report is an earlier phase and is received only after the export has failed. A client cancels the job when
it is judged already, and the request is still noted. -/
def lateCancel : Passage where
  before := []
  began := default
  flight := [.report { status := .fetchingChapters, percentage := 30 }, .accept ⟨"b"⟩ default, .deliver,
    .report { status := .fetchingMetadata }].map (·, default)
  result := .failed (.network "timed out")
  concluded := default
  landing := []
  drained := [default, default]
  canWrite := false
  judged := default
  verdict := [(.cancel none, default)]
  ended := default
  after := []
  released := default
  unbegun := by simp
  unconcluded := by simp
  unjudged := by simp
  emptied := by decide
  unended := by simp
  unreleased := by simp

theorem flight_in_order_late_cancel :
    claimedService.queue.activeId? = some firstClaim.job.id ∧
      ∃ delivered final, delivered.map Prod.fst = [({ status := .fetchingChapters, percentage := 30 } : ProgressUpdate),
        { status := .fetchingMetadata }] ∧
        story ⟨"a"⟩ (claimedService.own lateCancel.moves) =
          .starting firstClaim.job default :: (reported firstClaim.job default delivered).published ++ [final] ∧
        FailsWith final "network_error" "network error: timed out" := by
  have active : claimedService.queue.activeId? = some firstClaim.job.id := by decide
  have fresh : (oneClaimed.flatMap (·.1.accepted) ++ lateCancel.moves.flatMap (·.1.accepted)).Nodup := by decide
  obtain ⟨delivered, final, job, sent, own, ends, -⟩ :=
    flight_in_order oneClaimed claimedService firstClaim rfl active rfl lateCancel fresh
  exact ⟨active, delivered, final, sent, own, ends⟩

end BookExport.Proofs.FlightOrder
