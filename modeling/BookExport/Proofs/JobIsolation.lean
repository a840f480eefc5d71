import BookExport.Proofs.JobLifecycle
import BookExport.Proofs.UntimedStories
import BookExport.Proofs.WorkerRounds

/-! One job does not show in the others. Two runs in which clients do the same between the jobs, and in which every export
but one does the same, tell the same of every other job, whatever that one export does in either of them: it cannot keep
the worker from the jobs behind it. -/

namespace BookExport.Proofs.JobIsolation
open ServiceDeeds JobPlacement FlightSteps FlightOrder LoneFlights UntimedQueues UntimedStories Wakeups WorkerRounds

/-- What happens from the end of a job to the end of the next: clients call, in vain the worker looks for a job now and
then, and at last it finds one and has it exported. -/
structure Stint where
  calls : List (Move × Timestamp)
  sought : Timestamp
  passage : Passage
  between : ∀ made ∈ calls, isBetween made.1 = true
  alone : Alone passage

namespace Stint

def asked (stint : Stint) : List Move := (stint.calls.map Prod.fst).filter isClients

def found (stint : Stint) (s : Service) : Service := ((s.run stint.calls).state.seek stint.sought).state

def ended (stint : Stint) (s : Service) : Service :=
  ((stint.found s).run (stint.passage.flown ++ stint.passage.ending)).state

def moves (stint : Stint) : List (Move × Timestamp) := stint.calls ++ (.seek, stint.sought) :: stint.passage.moves

def freed (stint : Stint) (s : Service) : Service := (s.run stint.moves).state

end Stint

/-- The service after some stints. -/
def after (s : Service) (stints : List Stint) : Service := stints.foldl (fun s stint => stint.freed s) s

/-- What is told of a job: what the worker publishes from its start to its end, and the status in which it is given
back. -/
structure Account where
  id : JobId
  told : List Snapshot
  status : Status

/-- A run of the worker, job after job, and what is told of each. Every job but one is exported by the same function of
the job, without its times, and of whether its token is cancelled. -/
inductive Works (one : JobId) (orchestrate : Job → Bool → Conduct) : Service → List Stint → List Account → Prop
    where
  | rests (s : Service) : Works one orchestrate s [] []
  | exports {s : Service} {stint : Stint} {claim : Claim} {given : Job} {rest : List Stint} {accounts : List Account}
      (looks : (s.run stint.calls).state.worker = .seeking)
      (claimed : (stint.found s).worker = .claimed claim)
      (performs : claim.job.id ≠ one → Performs stint.passage
        (orchestrate (untimed claim.job) ((stint.found s).queue.signals.isCancelled claim.token)))
      (back : ((stint.ended s).release stint.passage.released).answer = some given)
      (later : Works one orchestrate (stint.freed s) rest accounts) :
      Works one orchestrate s (stint :: rest)
        (⟨claim.job.id, (stint.found s).own (stint.passage.flown ++ stint.passage.ending), given.status⟩ :: accounts)

/-- Clients and the exports do their part for such a run, and the worker makes its moves: between two jobs it goes on in its
round until it looks for a job, and not before is one there. Whether it then finds one is left open, and if it does so, how
its export is received. -/
inductive Attempts (one : JobId) (orchestrate : Job → Bool → Conduct) : WorkerRound → Service → List Stint → Prop where
  | rests (round : WorkerRound) (s : Service) : Attempts one orchestrate round s []
  | tries {round : WorkerRound} {s : Service} {stint : Stint} {rest : List Stint}
      (vain : Unclaimed (s.run stint.calls).state.worker)
      (looks : (round.through (stint.calls.map Prod.fst)).pause = .seeking)
      (performs : ∀ claim, (stint.found s).worker = .claimed claim → claim.job.id ≠ one → Performs stint.passage
        (orchestrate (untimed claim.job) ((stint.found s).queue.signals.isCancelled claim.token)))
      (later : Attempts one orchestrate ⟨.resting, (round.through (stint.calls.map Prod.fst)).isShutDown⟩ (stint.freed s) rest) :
      Attempts one orchestrate round s (stint :: rest)

structure SameAccount (a b : Account) : Prop where
  id : a.id = b.id
  told : List.Forall₂ SameButTimes a.told b.told
  status : a.status = b.status

def callOf? : Move → Option ClientCall
  | .accept id spec => some (.enqueue id spec)
  | .cancel id | .requestCancel id => some (.cancel id)
  | .shutDown => some .shutDown
  | _ => none

def serve (now : Timestamp) (q : Queue) (move : Move) : Queue := ((callOf? move).map (ClientCall.on q now)).getD q

theorem Alike.serve {q r : Queue} (alike : Alike q r) (move : Move) (now later : Timestamp) :
    Alike (serve now q move) (serve later r move) := by
  unfold JobIsolation.serve
  cases callOf? move with
  | none => exact alike
  | some call => exact alike.call call now later

private theorem client_queue (s : Service) (move : Move) (now : Timestamp) (clients : isClients move = true) :
    (s.step move now).state.queue = serve now s.queue move := by
  cases move with
  | accept | requestCancel | noteCancel | shutDown | closeStreams | closeSubscriptions => rfl
  | cancel id => exact ActivePlace.cancel_queue s id now
  | startWorker =>
    simp only [Service.step, Service.startWorker]
    split <;> rfl
  | check | seek | park | begin | deliver | judge | finish | settle | release | beat | report | conclude | cancelSelf =>
    cases clients

private theorem between_queue (s : Service) {move : Move} (between : isBetween move = true) (other : isClients move = false)
    (now : Timestamp) : (∃ bell, (s.step move now).state.queue = { s.queue with bell }) ∨
      ∃ claim, (s.step move now).state.worker = .claimed claim := by
  cases move with
  | check =>
    left
    simp only [Service.step, Service.check]
    split
    · split <;> exact ⟨_, rfl⟩
    · exact ⟨_, rfl⟩
  | seek =>
    obtain ⟨-, idle⟩ | ⟨claim, -, -, claimed, -⟩ := seek_cases s now
    · exact Or.inl idle
    · exact Or.inr ⟨claim, claimed⟩
  | park =>
    left
    simp only [Service.step, Service.park]
    split <;> exact ⟨_, rfl⟩
  | beat =>
    left
    simp only [Service.step, Service.beat]
    split <;> exact ⟨_, rfl⟩
  | accept | cancel | requestCancel | noteCancel | shutDown | closeStreams | closeSubscriptions | startWorker => cases other
  | begin | deliver | judge | finish | settle | release | report | conclude | cancelSelf => cases between

private theorem calls_alike {s : Service} {q : Queue} (alike : Alike s.queue q) (calls : List (Move × Timestamp))
    (between : ∀ made ∈ calls, isBetween made.1 = true) (vain : Unclaimed (s.run calls).state.worker) :
    Alike (s.run calls).state.queue (((calls.map Prod.fst).filter isClients).foldl (serve default) q) := by
  induction calls generalizing s q with
  | nil => exact alike
  | cons made rest ih =>
    obtain ⟨move, now⟩ := made
    have others : ∀ made ∈ rest, isBetween made.1 = true := fun made inside => between made (List.mem_cons_of_mem _ inside)
    cases clients : isClients move with
    | true =>
      have next := Alike.serve alike move now default
      rw [← client_queue s move now clients] at next
      rw [List.map_cons, List.filter_cons_of_pos clients, List.foldl_cons]
      exact ih next others vain
    | false =>
      rw [List.map_cons, List.filter_cons_of_neg (by simp [clients])]
      obtain ⟨bell, same⟩ | ⟨claim, claimed⟩ := between_queue s (between _ List.mem_cons_self) clients now
      · have next := alike.rung bell
        rw [← same] at next
        exact ih next others vain
      · exact absurd (claimed_stays claimed rest others) (vain claim)

section
variable {s t : Service} {stint other : Stint} {claim next : Claim}

theorem found_claims (claimed : (stint.found s).worker = .claimed claim)
    (vain : Unclaimed (s.run stint.calls).state.worker) :
    ((s.run stint.calls).state.queue.waitNext stint.sought).answer = some claim ∧
      (stint.found s).queue = ((s.run stint.calls).state.queue.waitNext stint.sought).state := by
  obtain ⟨idle, -⟩ | ⟨first, -, answer, has, same⟩ := seek_cases (s.run stint.calls).state stint.sought
  · exact absurd (idle.symm.trans claimed) (vain claim)
  · obtain rfl : first = claim := Worker.claimed.inj (has.symm.trans claimed)
    exact ⟨answer, same⟩

theorem ended_settled (claimed : (stint.found s).worker = .claimed claim) :
    (∃ error, ∃ status, (stint.ended s).worker =
      .settled ⟨claim.job.finish status stint.passage.ended, error⟩) ∧
      Unchanged claim.token (stint.found s).queue (stint.ended s).queue :=
  ⟨⟨_, _, (flight_course stint.passage claimed).1⟩, (undisturbed_flight stint.alone claimed).queue⟩

private theorem freed_released (stint : Stint) (s : Service) :
    stint.freed s = ((stint.ended s).release stint.passage.released).state := by
  rw [Stint.freed, Stint.moves, (Service.run_append ..).1, Service.run, Passage.moves, (Service.run_append ..).1]
  rfl

theorem freed_settled (claimed : (stint.found s).worker = .claimed claim) :
    (stint.freed s).queue = ((stint.ended s).queue.finishActive claim.job.id stint.passage.released).state ∧
      (stint.freed s).worker = .resting := by
  obtain ⟨⟨error, status, settled⟩, -⟩ := ended_settled claimed
  rw [freed_released, Service.release, settled]
  exact ⟨rfl, rfl⟩

private theorem freed_settings (stint : Stint) (s : Service) : (stint.freed s).settings = s.settings := settings_run s stint.moves

private theorem alike_calls (alike : Alike s.queue t.queue) (asked : stint.asked = other.asked)
    (vain : Unclaimed (s.run stint.calls).state.worker) (vainToo : Unclaimed (t.run other.calls).state.worker) :
    Alike (s.run stint.calls).state.queue (t.run other.calls).state.queue := by
  have left := calls_alike (Alike.refl alike.free) stint.calls stint.between vain
  have right := calls_alike alike.symm other.calls other.between vainToo
  refine left.trans (Alike.symm ?_)
  rw [← Stint.asked, asked]
  exact right

/-- What the first of two services finds can be found by the other, whose worker is there to find it. -/
private theorem finds_too (alike : Alike s.queue t.queue) (asked : stint.asked = other.asked)
    (vain : Unclaimed (s.run stint.calls).state.worker) (claimed : (stint.found s).worker = .claimed claim)
    (vainToo : Unclaimed (t.run other.calls).state.worker) (alert : Alert (Watch.ofQueue t.queue))
    (looks : (t.run other.calls).state.worker = .seeking) : ∃ next, (other.found t).worker = .claimed next := by
  have before := alike_calls alike asked vain vainToo
  obtain ⟨job, rest, waits, -⟩ := waitNext_claims (found_claims claimed vain).1
  refine seek_finds (alert_run alert other.calls) looks ⟨before.alsoFree, fun nobody => ?_⟩ other.sought
  have pending := before.pending
  rw [waits, nobody] at pending
  cases pending

/-- Two runs find the same job between the same calls, and are alike again when it is released, whatever its export does
in either of them. -/
private theorem round_alike (alike : Alike s.queue t.queue) (asked : stint.asked = other.asked)
    (vain : Unclaimed (s.run stint.calls).state.worker) (vainToo : Unclaimed (t.run other.calls).state.worker)
    (claimed : (stint.found s).worker = .claimed claim) (claims : (other.found t).worker = .claimed next) :
    untimed claim.job = untimed next.job ∧
      (stint.found s).queue.signals.isCancelled claim.token = (other.found t).queue.signals.isCancelled next.token ∧
      Alike (stint.freed s).queue (other.freed t).queue := by
  have before := alike_calls alike asked vain vainToo
  obtain ⟨first, queue⟩ := found_claims claimed vain
  obtain ⟨second, queueToo⟩ := found_claims claims vainToo
  obtain ⟨job, cancelled⟩ := before.claim first second
  have kept := (ended_settled claimed).2
  have keptToo := (ended_settled claims).2
  rw [queue] at kept ⊢
  rw [queueToo] at keptToo ⊢
  rw [(freed_settled claimed).1, (freed_settled claims).1]
  exact ⟨job, cancelled, before.freed first second kept keptToo ..⟩

private theorem rests_freed {round : WorkerRound} (inRound : InRound round (s.run stint.calls).state)
    (vain : Unclaimed (s.run stint.calls).state.worker) (claimed : (stint.found s).worker = .claimed claim) :
    InRound ⟨.resting, round.isShutDown⟩ (stint.freed s) := by
  obtain ⟨queue, worker⟩ := freed_settled claimed
  obtain ⟨answer, found⟩ := found_claims claimed vain
  obtain ⟨-, -, -, -, -, -, -, signals⟩ := waitNext_claims answer
  have freed (q : Queue) : (q.finishActive claim.job.id stint.passage.released).state.isShutDown = q.isShutDown := by
    unfold Queue.finishActive
    split <;> rfl
  refine ⟨worker, ?_⟩
  rw [queue, freed, Queue.isShutDown, (ended_settled claimed).2.shutDown, found, signals]
  exact inRound.shutDown

theorem found_settings (stint : Stint) (s : Service) : (stint.found s).settings = s.settings :=
  (settings_step (s.run stint.calls).state .seek stint.sought).trans (settings_run ..)

theorem release_answer {s : Service} {job : Job} {error : Option JobError} (settled : s.worker = .settled ⟨job, error⟩)
    (now : Timestamp) : (s.release now).answer = some job := by
  rw [Service.release, settled]

private theorem sameButTimes_of_map {first second : List Snapshot} (same : first.map timeless = second.map timeless) :
    List.Forall₂ SameButTimes first second := by
  induction first generalizing second with
  | nil =>
    obtain rfl := List.map_eq_nil_iff.mp same.symm
    exact .nil
  | cons s rest ih =>
    obtain ⟨t, others, rfl, alike, behind⟩ := List.map_eq_cons_iff.mp same.symm
    exact .cons (sameButTimes_of_timeless alike.symm) (ih behind.symm)

private theorem told_alike {conduct : Conduct} (claimed : (stint.found s).worker = .claimed claim)
    (claims : (other.found t).worker = .claimed next) (job : untimed claim.job = untimed next.job)
    (cancelled : (stint.found s).queue.signals.isCancelled claim.token =
      (other.found t).queue.signals.isCancelled next.token)
    (traceDir : s.settings.traceDir = t.settings.traceDir) (performs : Performs stint.passage conduct)
    (performsToo : Performs other.passage conduct) {given back : Job}
    (first : ((stint.ended s).release stint.passage.released).answer = some given)
    (second : ((other.ended t).release other.passage.released).answer = some back) :
    List.Forall₂ SameButTimes ((stint.found s).own (stint.passage.flown ++ stint.passage.ending))
        ((other.found t).own (other.passage.flown ++ other.passage.ending)) ∧ given.status = back.status := by
  obtain ⟨settled, delivered, last, sent, after, own⟩ := flight_course stint.passage claimed
  obtain ⟨settledToo, deliveredToo, lastToo, sentToo, afterToo, ownToo⟩ := flight_course other.passage claims
  rw [cancelled_flight stint.alone performs claimed, performs.result, performs.canWrite, settings_run,
    found_settings] at settled own
  rw [cancelled_flight other.alone performsToo claims, performsToo.result, performsToo.canWrite, settings_run,
    found_settings, ← cancelled, ← traceDir] at settledToo ownToo
  have started := timeless_starting job stint.passage.began other.passage.began
  obtain ⟨reference, mirror, atLast, atLastToo, same, published⟩ := timeless_recordAll started claim.job.id
    (sent.trans (performs.reports.trans (performsToo.reports.symm.trans sentToo.symm)))
  unfold reported at after own afterToo ownToo
  rw [← id_of_untimed job] at afterToo ownToo
  obtain rfl : reference = last := by
    rw [atLast] at after
    cases after
    rfl
  obtain rfl : mirror = lastToo := by
    rw [atLastToo] at afterToo
    cases afterToo
    rfl
  obtain ⟨final, status⟩ := verdict_alike job same conduct.result.toExcept
    ((stint.found s).queue.signals.isCancelled claim.token || conduct.cancelsItself) s.settings.traceDir
    conduct.canWrite stint.passage.judged stint.passage.ended other.passage.judged other.passage.ended
  have gave := Option.some.inj ((release_answer settled stint.passage.released).symm.trans first)
  have gaveToo := Option.some.inj ((release_answer settledToo other.passage.released).symm.trans second)
  refine ⟨?_, gave ▸ gaveToo ▸ status⟩
  rw [own, ownToo]
  refine List.rel_append (.cons (sameButTimes_of_timeless started) (sameButTimes_of_map published)) ?_
  exact .cons final .nil

end

/-- From the second job on, the two services may differ in times and in what the one job left behind. -/
theorem isolated_alike {one : JobId} {orchestrate : Job → Bool → Conduct} {s t : Service} {left right : List Stint}
    {kept : List Account} {round : WorkerRound} (first : Works one orchestrate s left kept)
    (second : Attempts one orchestrate round t right) (asked : left.map Stint.asked = right.map Stint.asked)
    (alike : Alike s.queue t.queue) (traceDir : s.settings.traceDir = t.settings.traceDir)
    (alert : Alert (Watch.ofQueue t.queue)) (inRound : InRound round t) :
    ∃ changed, Works one orchestrate t right changed ∧ changed.map Account.id = kept.map Account.id ∧
      List.Forall₂ SameAccount (kept.filter (·.id ≠ one)) (changed.filter (·.id ≠ one)) ∧
      Alike (after s left).queue (after t right).queue := by
  induction first generalizing right t round with
  | rests s =>
    obtain rfl := List.map_eq_nil_iff.mp asked.symm
    exact ⟨[], .rests t, rfl, .nil, alike⟩
  | @exports s stint claim given rest accounts looks claimed performs back later ih =>
    obtain ⟨other, others, rfl, same, behind⟩ := List.map_eq_cons_iff.mp asked.symm
    cases second with
    | tries vainToo comes performsToo laterToo =>
      have vain : Unclaimed (s.run stint.calls).state.worker := fun claim held => nomatch looks.symm.trans held
      have rounds := inRound.run other.calls other.between vainToo
      have looksToo : (t.run other.calls).state.worker = .seeking := rounds.worker.trans (congrArg Pause.worker comes)
      obtain ⟨next, claims⟩ := finds_too alike same.symm vain claimed vainToo alert looksToo
      obtain ⟨job, cancelled, alikeAfter⟩ := round_alike alike same.symm vain vainToo claimed claims
      have id := id_of_untimed job
      have settings : (stint.freed s).settings.traceDir = (other.freed t).settings.traceDir := by
        rw [freed_settings, freed_settings, traceDir]
      obtain ⟨changed, works, ids, others, last⟩ := ih laterToo behind.symm alikeAfter settings (alert_run alert other.moves)
        (rests_freed rounds vainToo claims)
      obtain ⟨⟨error, status, settled⟩, -⟩ := ended_settled claims
      have backToo := release_answer settled other.passage.released
      refine ⟨_, .exports looksToo claims (performsToo next claims) backToo works, ?_, ?_, last⟩
      · rw [List.map_cons, List.map_cons, ids, ← id]
      · by_cases about : claim.job.id = one
        · rw [List.filter_cons_of_neg (by simp [about]), List.filter_cons_of_neg (by simp [← id, about])]
          exact others
        · have does := performsToo next claims (id ▸ about)
          rw [← job, ← cancelled] at does
          obtain ⟨told, status⟩ := told_alike claimed claims job cancelled traceDir (performs about) does back backToo
          rw [List.filter_cons_of_pos (by simp [about]), List.filter_cons_of_pos (by simp [← id, about])]
          exact .cons ⟨id, told, status⟩ others

/-- Whatever one export does instead: if the worker got through some jobs, it gets through the same jobs again when clients
ask the same between them, the others are exported by the same function, and it only makes its moves. Of every other job the
same is told in the same order, and each is given back in the same status. In the end the same jobs wait, and the place is
free for the next one. -/
theorem other_jobs_are_isolated {one : JobId} {orchestrate : Job → Bool → Conduct} (s : Service) (empty : s.Empty)
    (before : List (Move × Timestamp)) (fresh : (before.flatMap (·.1.accepted)).Nodup)
    (waiting : (s.run before).state.worker = .waiting) {left right : List Stint} {kept : List Account}
    (first : Works one orchestrate (s.run before).state left kept)
    (second : Attempts one orchestrate ⟨.waiting, (s.run before).state.queue.isShutDown⟩ (s.run before).state right)
    (asked : left.map Stint.asked = right.map Stint.asked) :
    ∃ changed, Works one orchestrate (s.run before).state right changed ∧
      changed.map Account.id = kept.map Account.id ∧
      List.Forall₂ SameAccount (kept.filter (·.id ≠ one)) (changed.filter (·.id ≠ one)) ∧
      (after (s.run before).state right).queue.active = none ∧
      (after (s.run before).state right).queue.pending.map untimed =
        (after (s.run before).state left).queue.pending.map untimed := by
  have course := (JobCourse.Course.initial empty).run before (by simpa using fresh)
  have free : (s.run before).state.queue.active = none := by
    have held : (s.run before).state.queue.activeId? = jobOf (phaseOf (s.run before).state.worker) := course.held
    rw [waiting] at held
    exact Option.map_eq_none_iff.mp held
  have alert : Alert (Watch.ofQueue (s.run before).state.queue) := by
    refine alert_run ?_ before
    rw [empty.queue]
    exact alert_initial
  obtain ⟨changed, works, ids, others, last⟩ :=
    isolated_alike first second asked (Alike.refl free) rfl alert ⟨waiting, rfl⟩
  exact ⟨changed, works, ids, others, last.alsoFree, last.pending.symm⟩

def rested : List (Move × Timestamp) := [(.startWorker, default)]

def tracing : Service := { settings := { traceDir := some "traces" } }

/-- Every export but one fails with a trace. -/
def failing (job : Job) (_ : Bool) : Conduct :=
  ⟨[{ status := .fetchingMetadata, percentage := 5 }], false, .failed (.network job.id.text), true⟩

def stintAt (now : Timestamp) (calls : List Move) (conduct : Conduct)
    (between : ∀ move ∈ calls, isBetween move = true) : Stint where
  calls := calls.map (·, now)
  sought := now
  passage := solo conduct now
  between := by
    intro made inside
    obtain ⟨move, listed, rfl⟩ := List.mem_map.mp inside
    exact between move listed
  alone := alone_solo conduct now

def twoBooks (now : Timestamp) (conduct : Conduct) : List Stint :=
  [stintAt now [.accept ⟨"a"⟩ default, .check, .accept ⟨"b"⟩ default] conduct (by simp [isBetween, isClients]),
    stintAt now [.beat, .cancel none, .check] (failing { (default : Job) with id := ⟨"b"⟩ } false)
      (by simp [isBetween, isClients])]

/-- The one export is completed in the first run, and in the second one it cancels itself and panics. -/
theorem other_jobs_are_isolated_from_a_panic : ∃ kept changed,
    Works ⟨"a"⟩ failing (tracing.run rested).state
      (twoBooks ⟨7, 0⟩ ⟨[{ status := .generatingEpub }], false, .finished {}, false⟩)
        kept ∧
      Works ⟨"a"⟩ failing (tracing.run rested).state (twoBooks default ⟨[], true, .panicked none, true⟩) changed ∧
      kept.map Account.status = [.completed, .failed] ∧ changed.map Account.status = [.cancelled, .failed] ∧
      List.Forall₂ SameAccount (kept.filter (·.id ≠ ⟨"a"⟩)) (changed.filter (·.id ≠ ⟨"a"⟩)) := by
  have left : ∃ kept, Works ⟨"a"⟩ failing (tracing.run rested).state
      (twoBooks ⟨7, 0⟩ ⟨[{ status := .generatingEpub }], false, .finished {}, false⟩) kept ∧
      kept.map Account.status = [.completed, .failed] :=
    ⟨_, .exports rfl rfl (fun other => absurd rfl other) rfl
      (.exports rfl rfl (fun _ => performs_solo _ _) rfl (.rests _)), rfl⟩
  have right : Attempts ⟨"a"⟩ failing ⟨.waiting, false⟩ (tracing.run rested).state
      (twoBooks default ⟨[], true, .panicked none, true⟩) := by
    refine .tries (fun claim held => nomatch held) rfl ?_ (.tries (fun claim held => nomatch held) rfl ?_ (.rests _ _))
    · intro claim claimed other
      cases claimed
      exact absurd rfl other
    · intro claim claimed other
      cases claimed
      exact performs_solo _ _
  obtain ⟨kept, first, completed⟩ := left
  obtain ⟨changed, second, -, same, -⟩ :=
    other_jobs_are_isolated tracing ⟨rfl, rfl, rfl, rfl, rfl, rfl⟩ rested (by decide) rfl first right rfl
  refine ⟨kept, changed, first, second, completed, ?_, same⟩
  cases second with
  | exports _ _ _ back later =>
    cases back
    cases later with
    | exports _ _ _ back later =>
      cases back
      cases later
      rfl

end BookExport.Proofs.JobIsolation
