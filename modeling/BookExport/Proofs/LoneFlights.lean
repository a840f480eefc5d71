import BookExport.Proofs.FlightOrder
import BookExport.Proofs.UntimedQueues

/-! Flights during which no client calls. All that such a flight does to the queue is that it may cancel its own
token, and what is published of it depends on its job, its reports and its result alone. -/

namespace BookExport.Proofs.LoneFlights
open ServiceDeeds JobPlacement SequentialReports FlightSteps ActivePlace FlightOrder UntimedQueues

def isClients : Move → Bool
  | .accept .. | .cancel _ | .requestCancel _ | .noteCancel _ | .shutDown | .closeStreams | .closeSubscriptions
  | .startWorker => true
  | _ => false

def isSelfCancel : Move → Bool
  | .cancelSelf => true
  | _ => false

/-- The token with which a job can still be stopped. -/
def tokenOf : Worker → Option CancelToken
  | .claimed claim => some claim.token
  | .running flight => some flight.token
  | _ => none

/-- Nobody sets the worker anew, and it tells nothing but when it has given a job back. -/
theorem untold_step (s : Service) {move : Move} (other : move ≠ .release) (silent : move ≠ .beat) (now : Timestamp) :
    (s.step move now).state.settings = s.settings ∧ (s.step move now).state.telemetry = s.telemetry := by
  cases move with
  | accept | requestCancel | noteCancel | shutDown | closeStreams | closeSubscriptions => exact ⟨rfl, rfl⟩
  | cancel id =>
    simp only [Service.step, Outcome.silent, Service.cancel]
    split
    · exact ⟨rfl, rfl⟩
    · split <;> exact ⟨rfl, rfl⟩
  | startWorker =>
    simp only [Service.step, Service.startWorker]
    split <;> exact ⟨rfl, rfl⟩
  | check =>
    simp only [Service.step, Service.check]
    split
    · split <;> exact ⟨rfl, rfl⟩
    · exact ⟨rfl, rfl⟩
  | seek =>
    simp only [Service.step, Service.seek]
    split
    · split <;> exact ⟨rfl, rfl⟩
    · exact ⟨rfl, rfl⟩
  | park =>
    simp only [Service.step, Service.park]
    split <;> exact ⟨rfl, rfl⟩
  | begin =>
    simp only [Service.step, Service.begin]
    split <;> exact ⟨rfl, rfl⟩
  | deliver =>
    simp only [Service.step, Service.deliver]
    split
    · split <;> exact ⟨rfl, rfl⟩
    · exact ⟨rfl, rfl⟩
  | judge canWrite =>
    simp only [Service.step, Outcome.silent, Service.judge]
    split <;> exact ⟨rfl, rfl⟩
  | finish =>
    simp only [Service.step, Service.finish]
    split <;> exact ⟨rfl, rfl⟩
  | settle canWrite =>
    simp only [Service.step, Outcome.silent, Service.settle, Service.finish, Service.judge]
    split <;> split <;> exact ⟨rfl, rfl⟩
  | release => exact absurd rfl other
  | beat => exact absurd rfl silent
  | report update =>
    simp only [Service.step, Service.report]
    split
    · split <;> exact ⟨rfl, rfl⟩
    · exact ⟨rfl, rfl⟩
  | conclude result =>
    simp only [Service.step, Service.conclude]
    split
    · split <;> exact ⟨rfl, rfl⟩
    · exact ⟨rfl, rfl⟩
  | cancelSelf =>
    simp only [Service.step, Service.cancelSelf]
    split <;> exact ⟨rfl, rfl⟩

theorem settings_step (s : Service) (move : Move) (now : Timestamp) :
    (s.step move now).state.settings = s.settings := by
  by_cases tells : move = .release ∨ move = .beat
  · rcases tells with rfl | rfl
    · simp only [Service.step, Outcome.silent, Service.release]
      split <;> rfl
    · simp only [Service.step, Service.beat]
      split <;> rfl
  · rw [not_or] at tells
    exact (untold_step s tells.1 tells.2 now).1

theorem settings_run (s : Service) (moves : List (Move × Timestamp)) :
    (s.run moves).state.settings = s.settings := by
  induction moves generalizing s with
  | nil => rfl
  | cons made rest ih => exact (ih _).trans (settings_step s made.1 made.2)

/-- The worker has claimed nobody else, and can still be stopped by no other token. -/
structure Keeps (before after : Worker) : Prop where
  claim : ∀ claim, after = .claimed claim → before = .claimed claim
  token : ∀ token, tokenOf after = some token → tokenOf before = some token

theorem Keeps.refl (worker : Worker) : Keeps worker worker := ⟨fun _ same => same, fun _ same => same⟩

private theorem keeps_of_free {after : Worker} (before : Worker) (free : tokenOf after = none) : Keeps before after := by
  refine ⟨?_, ?_⟩
  · rintro claim rfl
    cases free
  · intro token held
    rw [free] at held
    cases held

private theorem keeps_of_running {before : Worker} {flight : Flight} (held : tokenOf before = some flight.token) :
    Keeps before (.running flight) := by
  refine ⟨?_, fun token same => same ▸ held⟩
  intro claim claimed
  cases claimed

/-- All that a move can do to the worker, as far as its job can still be stopped. -/
inductive Goes (s : Service) (move : Move) : Worker → Prop where
  | stays : Goes s move s.worker
  | lets {after : Worker} (free : tokenOf after = none) (idle : after ≠ .seeking) : Goes s move after
  | looks (waited : s.worker = .waiting) (opened : s.queue.isShutDown = false) : Goes s move .seeking
  | claims (claim : Claim) (seeks : move = .seek) : Goes s move (.claimed claim)
  | flies (flight : Flight) (held : tokenOf s.worker = some flight.token) : Goes s move (.running flight)

theorem goes_step (s : Service) (move : Move) (now : Timestamp) : Goes s move (s.step move now).state.worker := by
  cases move with
  | accept | requestCancel | noteCancel | shutDown | closeStreams | closeSubscriptions => exact .stays
  | cancel id => exact (cancel_aside s id now).worker ▸ .stays
  | startWorker =>
    simp only [Service.step, Service.startWorker]
    split
    · exact .lets rfl (by simp)
    · exact .lets rfl (by simp)
    · exact .stays
  | check =>
    simp only [Service.step, Service.check]
    split
    next waiting =>
      split
      next => exact .lets rfl (by simp)
      next opened => exact .looks waiting (by simpa using opened)
    next => exact .stays
  | seek =>
    simp only [Service.step, Service.seek]
    split
    · split
      · exact .claims _ rfl
      · exact .stays
    · exact .stays
  | park =>
    simp only [Service.step, Service.park]
    split
    · exact .lets rfl (by simp)
    · exact .stays
  | begin =>
    simp only [Service.step, Service.begin]
    split
    next claim claimed => exact .flies _ (by rw [claimed]; rfl)
    next => exact .stays
  | deliver =>
    simp only [Service.step, Service.deliver]
    split
    next flight running =>
      split
      · exact .flies _ (by rw [running]; rfl)
      · exact .stays
    next => exact .stays
  | judge canWrite =>
    simp only [Service.step, Outcome.silent, Service.judge]
    split
    · exact .lets rfl (by simp)
    · exact .stays
  | finish =>
    simp only [Service.step, Service.finish]
    split
    · exact .lets rfl (by simp)
    · exact .stays
  | settle canWrite =>
    simp only [Service.step, Outcome.silent, Service.settle, Service.finish, Service.judge]
    split
    · exact .lets rfl (by simp)
    · split
      · exact .lets rfl (by simp)
      · exact .stays
  | release =>
    simp only [Service.step, Outcome.silent, Service.release]
    split
    · exact .lets rfl (by simp)
    · exact .stays
  | beat =>
    simp only [Service.step, Service.beat]
    split
    · exact .lets rfl (by simp)
    · exact .stays
  | report update =>
    simp only [Service.step, Service.report]
    split
    next flight running =>
      split
      · exact .stays
      · exact .flies _ (by rw [running]; rfl)
    next => exact .stays
  | conclude result =>
    simp only [Service.step, Service.conclude]
    split
    next flight running =>
      split
      · exact .stays
      · exact .flies _ (by rw [running]; rfl)
    next => exact .stays
  | cancelSelf =>
    simp only [Service.step, Service.cancelSelf]
    split <;> exact .stays

/-- The worker gets another job only when it looks for one. -/
theorem keeps_step (s : Service) {move : Move} (other : move ≠ .seek) (now : Timestamp) :
    Keeps s.worker (s.step move now).state.worker := by
  have goes := goes_step s move now
  generalize (s.step move now).state.worker = after at goes ⊢
  cases goes with
  | stays => exact .refl _
  | lets free => exact keeps_of_free _ free
  | looks => exact keeps_of_free _ rfl
  | claims claim seeks => exact absurd seeks other
  | flies flight held => exact keeps_of_running held

/-- After the shutdown no worker begins to look for a job. -/
theorem seeking_step {s : Service} (shut : s.queue.isShutDown = true) {move : Move} {now : Timestamp}
    (seeks : (s.step move now).state.worker = .seeking) : s.worker = .seeking := by
  have goes := goes_step s move now
  generalize (s.step move now).state.worker = after at goes seeks
  cases goes with
  | stays => exact seeks
  | lets free idle => exact absurd seeks idle
  | looks waited opened =>
    rw [shut] at opened
    cases opened
  | claims | flies => cases seeks

/-- A worker that has a job in its hands gets no other token. -/
theorem tokenOf_step (s : Service) (move : Move) (now : Timestamp) (busy : phaseOf s.worker ≠ .idle)
    {token : CancelToken} (found : tokenOf (s.step move now).state.worker = some token) :
    tokenOf s.worker = some token := by
  by_cases seeks : move = .seek
  · subst seeks
    have unfit : fits s.worker .seek = false := by
      cases held : s.worker with
      | seeking => exact absurd (by rw [held]; rfl) busy
      | _ => rfl
    rwa [unfit_step s .seek now rfl unfit] at found
  · exact (keeps_step s seeks now).token token found

/-- Nobody but the job in the worker's hands has touched the queue, and only to cancel itself. -/
structure Undisturbed (q : Queue) (token : CancelToken) (s : Service) : Prop where
  queue : Unchanged token q s.queue
  busy : phaseOf s.worker ≠ .idle
  own : ∀ other, tokenOf s.worker = some other → other = token

/-- What a flight does without a client: only the export can touch the queue, by cancelling itself. -/
theorem queue_step (s : Service) (move : Move) (now : Timestamp) (busy : phaseOf s.worker ≠ .idle)
    (held : move ≠ .release) (alone : isClients move = false) :
    (s.step move now).state.queue = s.queue ∨ isSelfCancel move = true ∧ ∃ flight, s.worker = .running flight ∧
      (s.step move now).state.queue = { s.queue with signals := s.queue.signals.cancel flight.token } := by
  cases about : isAside move with
  | false => exact Or.inl (flight_keeps s move now busy held about).1
  | true =>
    cases move with
    | cancelSelf =>
      simp only [Service.step, Service.cancelSelf]
      split
      next flight running => exact Or.inr ⟨rfl, flight, running, rfl⟩
      next => exact Or.inl rfl
    | accept | cancel | requestCancel | noteCancel | shutDown | closeStreams | closeSubscriptions | startWorker =>
      cases alone
    | check | seek | park | begin | deliver | judge | finish | settle | release | beat | report | conclude =>
      cases about

section
variable {q : Queue} {token : CancelToken} {s : Service}

theorem Undisturbed.step (still : Undisturbed q token s) (move : Move) (now : Timestamp) (held : move ≠ .release)
    (alone : isClients move = false) : Undisturbed q token (s.step move now).state := by
  have busy := (step_keeps s move now still.busy held).2
  have own (other : CancelToken) (found : tokenOf (s.step move now).state.worker = some other) : other = token :=
    still.own other (tokenOf_step s move now still.busy found)
  obtain same | ⟨-, flight, running, cancelled⟩ := queue_step s move now still.busy held alone
  · exact ⟨same ▸ still.queue, busy, own⟩
  · obtain rfl : flight.token = token := still.own _ (by rw [running]; rfl)
    exact ⟨cancelled ▸ still.queue.cancel, busy, own⟩

theorem Undisturbed.run (still : Undisturbed q token s) (moves : List (Move × Timestamp))
    (held : ∀ made ∈ moves, made.1 ≠ .release) (alone : ∀ made ∈ moves, isClients made.1 = false) :
    Undisturbed q token (s.run moves).state := by
  induction moves generalizing s with
  | nil => exact still
  | cons made rest ih =>
    exact ih (still.step made.1 made.2 (held _ List.mem_cons_self) (alone _ List.mem_cons_self))
      (fun other inside => held other (List.mem_cons_of_mem _ inside))
      fun other inside => alone other (List.mem_cons_of_mem _ inside)

theorem queue_run (busy : phaseOf s.worker ≠ .idle) (moves : List (Move × Timestamp))
    (held : ∀ made ∈ moves, made.1 ≠ .release) (alone : ∀ made ∈ moves, isClients made.1 = false)
    (quiet : ∀ made ∈ moves, isSelfCancel made.1 = false) : (s.run moves).state.queue = s.queue := by
  induction moves generalizing s with
  | nil => rfl
  | cons made rest ih =>
    have first := held _ List.mem_cons_self
    obtain same | ⟨cancels, -⟩ := queue_step s made.1 made.2 busy first (alone _ List.mem_cons_self)
    · have later := ih (step_keeps s made.1 made.2 busy first).2
        (fun other inside => held other (List.mem_cons_of_mem _ inside))
        (fun other inside => alone other (List.mem_cons_of_mem _ inside))
        fun other inside => quiet other (List.mem_cons_of_mem _ inside)
      exact later.trans same
    · rw [quiet _ List.mem_cons_self] at cancels
      cases cancels

theorem cancelled_run {job : Job} {began : Timestamp} {sent : List ProgressUpdate} {published : List Snapshot}
    (aloft : Aloft job token began none sent published s) (moves : List (Move × Timestamp))
    (goesOn : ∀ made ∈ moves, ∀ result, made.1 ≠ .conclude result) (held : ∀ made ∈ moves, made.1 ≠ .release)
    (alone : ∀ made ∈ moves, isClients made.1 = false) :
    (s.run moves).state.queue.signals.isCancelled token =
      (s.queue.signals.isCancelled token || moves.any fun made => isSelfCancel made.1) := by
  induction moves generalizing s sent published with
  | nil => exact (Bool.or_false _).symm
  | cons made rest ih =>
    obtain ⟨move, now⟩ := made
    have stays : leaves none move = false := by
      cases move with
      | conclude result => exact absurd rfl (goesOn _ List.mem_cons_self result)
      | _ => rfl
    obtain ⟨delivered, inbox, reference, worker, -⟩ := id aloft
    have busy : phaseOf s.worker ≠ .idle := by simp [worker, phaseOf]
    have later := ih (aloft.step move now stays) (fun other inside => goesOn other (List.mem_cons_of_mem _ inside))
      (fun other inside => held other (List.mem_cons_of_mem _ inside))
      fun other inside => alone other (List.mem_cons_of_mem _ inside)
    have next : (s.step move now).state.queue.signals.isCancelled token =
        (s.queue.signals.isCancelled token || isSelfCancel move) := by
      cases cancels : isSelfCancel move with
      | true =>
        obtain rfl : move = .cancelSelf := by cases move <;> first | rfl | cases cancels
        simp only [Service.step, Service.cancelSelf, worker, CancelSignals.isCancelled_cancel, decide_true,
          Bool.true_or, Bool.or_true]
      | false =>
        obtain same | ⟨does, -⟩ := queue_step s move now busy (held _ List.mem_cons_self) (alone _ List.mem_cons_self)
        · rw [same, Bool.or_false]
        · rw [cancels] at does
          cases does
    rw [List.any_cons, ← Bool.or_assoc, ← next]
    exact later

end

/-- What an export does with its job, and whether a trace of its failure can be written. -/
structure Conduct where
  reports : List ProgressUpdate
  cancelsItself : Bool
  result : ExportResult
  canWrite : Bool

/-- An export does this during a flight, and nothing else. When its reports are received does not matter. -/
structure Performs (p : Passage) (conduct : Conduct) : Prop where
  reports : p.flight.flatMap (·.1.reported) = conduct.reports
  cancels : (p.flight.any fun made => isSelfCancel made.1) = conduct.cancelsItself
  result : p.result = conduct.result
  canWrite : p.canWrite = conduct.canWrite
  quiet : ∀ made ∈ p.before ++ p.landing, isSelfCancel made.1 = false

def Alone (p : Passage) : Prop := ∀ made ∈ p.moves, isClients made.1 = false

section
variable (conduct : Conduct) (now : Timestamp)

def soloFlight : List (Move × Timestamp) :=
  conduct.reports.map (.report ·, now) ++ if conduct.cancelsItself then [(.cancelSelf, now)] else []

variable {conduct now}

private theorem mem_soloFlight {made : Move × Timestamp} (inside : made ∈ soloFlight conduct now) :
    (∃ update, made.1 = .report update) ∨ made.1 = .cancelSelf := by
  rcases List.mem_append.mp inside with reports | cancels
  · obtain ⟨update, -, rfl⟩ := List.mem_map.mp reports
    exact Or.inl ⟨update, rfl⟩
  · split at cancels
    · exact Or.inr (congrArg Prod.fst (List.mem_singleton.mp cancels))
    · cases cancels

private theorem goesOn_soloFlight : ∀ made ∈ soloFlight conduct now,
    made.1 ≠ .release ∧ ∀ result, made.1 ≠ .conclude result := by
  intro made inside
  rcases mem_soloFlight inside with ⟨update, other⟩ | other <;> simp [other]

private theorem reported_soloFlight : (soloFlight conduct now).flatMap (·.1.reported) = conduct.reports := by
  have cancels : (if conduct.cancelsItself then [(Move.cancelSelf, now)] else []).flatMap (·.1.reported) = [] := by
    split <;> rfl
  rw [soloFlight, List.flatMap_append, cancels, List.append_nil, List.flatMap_map]
  exact List.flatMap_singleton' conduct.reports

private theorem received_soloFlight : ((soloFlight conduct now).flatMap (·.1.reported)).length ≤ conduct.reports.length :=
  Nat.le_of_eq (congrArg List.length reported_soloFlight)

variable (conduct now)

def solo : Passage :=
  .brief (soloFlight conduct now) conduct.result conduct.reports.length conduct.canWrite now goesOn_soloFlight
    received_soloFlight

theorem alone_solo : Alone (solo conduct now) := by
  intro made inside
  simp only [solo, Passage.brief, Passage.moves, Passage.flown, Passage.sending, Passage.ending, List.mem_append, List.mem_cons,
    List.mem_map, List.not_mem_nil, or_false, false_or] at inside
  rcases inside with ((((rfl | flies) | rfl) | ⟨now, -, rfl⟩) | rfl | rfl) | rfl
  · rfl
  · rcases mem_soloFlight flies with ⟨update, other⟩ | other <;> (rw [other]; rfl)
  all_goals rfl

/-- There is a flight for every conduct. -/
theorem performs_solo : Performs (solo conduct now) conduct := by
  refine ⟨reported_soloFlight, ?_, rfl, rfl, by simp [solo, Passage.brief]⟩
  show (soloFlight conduct now).any (fun made => isSelfCancel made.1) = conduct.cancelsItself
  rw [soloFlight, List.any_append, List.any_map]
  have silent : conduct.reports.any ((fun made : Move × Timestamp => isSelfCancel made.1) ∘ (.report ·, now)) =
      false := by simp [isSelfCancel]
  rw [silent, Bool.false_or]
  cases conduct.cancelsItself <;> rfl

end

section
variable {s : Service} {claim : Claim} {p : Passage}

private theorem undisturbed_claimed (claimed : s.worker = .claimed claim) : Undisturbed s.queue claim.token s := by
  refine ⟨.refl .., by simp [claimed, phaseOf], ?_⟩
  intro other found
  rw [claimed] at found
  exact (Option.some.inj found).symm

theorem undisturbed_flight (alone : Alone p) (claimed : s.worker = .claimed claim) :
    Undisturbed s.queue claim.token (s.run (p.flown ++ p.ending)).state :=
  (undisturbed_claimed claimed).run _ (unreleased_until p) fun made inside =>
    alone made (List.mem_append_left _ inside)

/-- Whether a job counts as cancelled when it is judged: either it was when it was claimed, or its export did it. -/
theorem cancelled_flight (alone : Alone p) {conduct : Conduct} (performs : Performs p conduct)
    (claimed : s.worker = .claimed claim) :
    (s.run p.flown).state.queue.signals.isCancelled claim.token =
      (s.queue.signals.isCancelled claim.token || conduct.cancelsItself) := by
  let opening := p.before ++ [(Move.begin, p.began)]
  let closing := (Move.conclude p.result, p.concluded) :: p.landing ++ p.drained.map fun now => (Move.deliver, now)
  have parts : p.flown = opening ++ (p.flight ++ closing) := by
    simp [opening, closing, Passage.flown, Passage.sending]
  have held (made : Move × Timestamp) (inside : made ∈ opening ++ (p.flight ++ closing)) : made.1 ≠ .release :=
    unreleased_until p made (List.mem_append_left _ (parts ▸ inside))
  have alone (made : Move × Timestamp) (inside : made ∈ opening ++ (p.flight ++ closing)) :
      isClients made.1 = false :=
    alone made (List.mem_append_left _ (List.mem_append_left _ (parts ▸ inside)))
  have still := undisturbed_claimed claimed
  obtain ⟨begun, -⟩ := begun_aloft p claimed
  have opened : (s.run opening).state.queue = s.queue := by
    apply queue_run still.busy opening (fun made inside => held made (List.mem_append_left _ inside))
      fun made inside => alone made (List.mem_append_left _ inside)
    intro made inside
    rcases List.mem_append.mp inside with before | begins
    · exact performs.quiet made (List.mem_append_left _ before)
    · rw [List.mem_singleton.mp begins]
      rfl
  have flown := cancelled_run begun p.flight p.unconcluded
    (fun made inside => held made (List.mem_append_right _ (List.mem_append_left _ inside)))
    fun made inside => alone made (List.mem_append_right _ (List.mem_append_left _ inside))
  have busy := ((still.run opening (fun made inside => held made (List.mem_append_left _ inside))
    fun made inside => alone made (List.mem_append_left _ inside)).run p.flight
    (fun made inside => held made (List.mem_append_right _ (List.mem_append_left _ inside)))
    fun made inside => alone made (List.mem_append_right _ (List.mem_append_left _ inside))).busy
  have closed : (((s.run opening).state.run p.flight).state.run closing).state.queue =
      ((s.run opening).state.run p.flight).state.queue := by
    apply queue_run busy closing
      (fun made inside => held made (List.mem_append_right _ (List.mem_append_right _ inside)))
      fun made inside => alone made (List.mem_append_right _ (List.mem_append_right _ inside))
    intro made inside
    rcases List.mem_append.mp inside with concluding | delivers
    · rcases List.mem_cons.mp concluding with rfl | lands
      · rfl
      · exact performs.quiet made (List.mem_append_right _ lands)
    · obtain ⟨now, -, rfl⟩ := List.mem_map.mp delivers
      rfl
  rw [parts, (Service.run_append ..).1, (Service.run_append ..).1, closed, flown, opened, performs.cancels]

end

end BookExport.Proofs.LoneFlights
