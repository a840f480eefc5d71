import BookExport.Proofs.SequentialReports

/-! A worker with a job in its hands, move by move. A move either takes the worker further, or leaves it as it is and at
most notes a request to cancel, or is not possible. -/

namespace BookExport.Proofs.FlightSteps
open QueuePositions ServiceDeeds JobPlacement SequentialReports

def isAside : Move → Bool
  | .accept .. | .cancel _ | .requestCancel _ | .noteCancel _ | .shutDown | .closeStreams | .closeSubscriptions
  | .startWorker | .cancelSelf => true
  | _ => false

/-- Moves that can take a worker further. -/
def fits : Worker → Move → Bool
  | .waiting, .check | .seeking, .seek | .seeking, .park => true
  | .claimed _, .begin => true
  | .running _, .deliver | .running _, .report _ | .running _, .conclude _ | .running _, .judge _
  | .running _, .settle _ => true
  | .judged .., .finish | .judged .., .settle _ => true
  | .settled _, .release => true
  | .resting, .beat => true
  | _, _ => false

/-- What passes the worker by. -/
structure Aside (before after : Service) : Prop where
  worker : after.worker = before.worker
  tracks : ∀ reference, Tracks before.tracker reference → Tracks after.tracker reference

theorem Aside.refl (s : Service) : Aside s s := ⟨rfl, fun _ tracks => tracks⟩

theorem Aside.trans {a b c : Service} (first : Aside a b) (rest : Aside b c) : Aside a c :=
  ⟨rest.worker.trans first.worker, fun reference tracks => rest.tracks reference (first.tracks reference tracks)⟩

theorem cancel_aside (s : Service) (id : Option JobId) (now : Timestamp) :
    Aside s (s.cancel id now).state := by
  have first : Aside s (s.requestCancel id now).state := ⟨rfl, fun _ tracks => tracks⟩
  unfold Service.cancel
  simp only
  split
  · exact first
  · split
    next id _ => exact first.trans ⟨rfl, fun reference tracks => tracks.note id now⟩
    next => exact first

theorem aside_step (s : Service) (move : Move) (now : Timestamp) (aside : isAside move = true)
    (busy : phaseOf s.worker ≠ .idle) : Aside s (s.step move now).state := by
  cases move with
  | cancel id => exact cancel_aside s id now
  | noteCancel id => exact ⟨rfl, fun reference tracks => tracks.note id now⟩
  | accept | requestCancel | shutDown | closeStreams | closeSubscriptions => exact ⟨rfl, fun _ tracks => tracks⟩
  | startWorker =>
    have same : s.startWorker = s := by
      unfold Service.startWorker
      split
      next absent => exact absurd (by rw [absent]; rfl) busy
      next stopped => exact absurd (by rw [stopped]; rfl) busy
      next => rfl
    simp only [Service.step, same]
    exact .refl s
  | cancelSelf =>
    simp only [Service.step, Service.cancelSelf]
    split
    · exact ⟨rfl, fun _ tracks => tracks⟩
    · exact .refl s
  | check | seek | park | begin | deliver | judge | finish | settle | release | beat | report | conclude => cases aside

/-- A move of the worker or its export that comes at the wrong time does nothing. -/
theorem unfit_step (s : Service) (move : Move) (now : Timestamp) (about : isAside move = false)
    (unfit : fits s.worker move = false) : s.step move now = ⟨s, (), []⟩ := by
  obtain ⟨defaultDir, queue, tracker, broadcaster, worker, settings, telemetry⟩ := s
  cases move with
  | accept | cancel | requestCancel | noteCancel | shutDown | closeStreams | closeSubscriptions | startWorker
  | cancelSelf => cases about
  | check | seek | park | begin | deliver | judge | finish | settle | release | beat | report | conclude =>
    cases worker <;> first | rfl | cases unfit

/-- A move that does not fit passes the worker by, and the worker publishes nothing. -/
theorem rest_step (s : Service) (move : Move) (now : Timestamp) (busy : phaseOf s.worker ≠ .idle)
    (unfit : fits s.worker move = false) : Aside s (s.step move now).state ∧ s.ownStep move now = [] := by
  cases about : isAside move with
  | true =>
    refine ⟨aside_step s move now about busy, ?_⟩
    cases move <;> first | rfl | cases about
  | false =>
    have ignored := unfit_step s move now about unfit
    refine ⟨by rw [ignored]; exact .refl s, ?_⟩
    simp only [Service.ownStep, ignored, ite_self]

theorem rest_run (s : Service) (moves : List (Move × Timestamp)) (busy : phaseOf s.worker ≠ .idle)
    (unfit : ∀ made ∈ moves, fits s.worker made.1 = false) : Aside s (s.run moves).state ∧ s.own moves = [] := by
  induction moves generalizing s with
  | nil => exact ⟨.refl s, rfl⟩
  | cons first rest ih =>
    obtain ⟨move, now⟩ := first
    obtain ⟨aside, silent⟩ := rest_step s move now busy (unfit _ List.mem_cons_self)
    have later := ih (s.step move now).state (by rwa [aside.worker])
      (by simpa only [aside.worker] using fun made member => unfit made (List.mem_cons_of_mem _ member))
    refine ⟨aside.trans later.1, ?_⟩
    simp only [Service.own, silent, later.2, List.nil_append]

def reported (job : Job) (began : Timestamp) (delivered : List (ProgressUpdate × Timestamp)) : Outcome Tracker Unit :=
  recordAll ⟨some (.starting job began)⟩ job.id delivered

/-- An export is under way: of the reports it sent, the first are delivered and the others are in the inbox, and what
was published is what the delivered ones lead to. -/
def Aloft (job : Job) (token : CancelToken) (began : Timestamp) (result : Option ExportResult)
    (sent : List ProgressUpdate) (published : List Snapshot) (s : Service) : Prop :=
  ∃ delivered inbox reference, s.worker = .running ⟨job, token, inbox, result⟩ ∧
    delivered.map Prod.fst ++ inbox = sent ∧ reported job began delivered = ⟨⟨some reference⟩, (), published⟩ ∧
    Tracks s.tracker reference

section
variable {job : Job} {token : CancelToken} {began : Timestamp} {result : Option ExportResult}
  {sent : List ProgressUpdate} {published : List Snapshot} {s : Service}

private theorem deliver_aloft (aloft : Aloft job token began result sent published s) (now : Timestamp) :
    Aloft job token began result sent (published ++ s.ownStep .deliver now) (s.step .deliver now).state := by
  obtain ⟨delivered, inbox, reference, worker, split, same, tracks⟩ := aloft
  cases inbox with
  | nil =>
    have ignored : s.step .deliver now = ⟨s, (), []⟩ := by simp only [Service.step, Service.deliver, worker]
    simp only [Service.ownStep, ignored, ite_self, List.append_nil]
    exact ⟨delivered, [], reference, worker, split, same, tracks⟩
  | cons update inbox =>
    obtain ⟨later, next, mirrored, follows⟩ := tracks.record job.id (.progress update) (by simp) now
    have own : s.ownStep .deliver now = (s.tracker.record job.id (.progress update) now).published := by
      simp only [Service.ownStep, Move.isWorkers, ↓reduceIte, Service.step, Service.deliver, worker,
        Service.afterTracker]
    refine ⟨delivered ++ [(update, now)], inbox, later, ?_, by simpa using split, ?_, ?_⟩
    · simp only [Service.step, Service.deliver, worker]
    · unfold reported at same ⊢
      rw [recordAll_snoc, same]
      simp only [next, own, mirrored]
    · simpa only [Service.step, Service.deliver, worker, Service.afterTracker] using follows

/-- The reports that a move adds to those that were sent; a concluded export sends no more. -/
def sends (result : Option ExportResult) (move : Move) : List ProgressUpdate :=
  if result.isNone then move.reported else []

/-- A move with which the worker leaves a flight that has come so far. -/
def leaves : Option ExportResult → Move → Bool
  | none, .conclude _ => true
  | some _, .judge _ | some _, .settle _ => true
  | _, _ => false

private theorem ignored_aloft (aloft : Aloft job token began result sent published s) {move : Move} {now : Timestamp}
    (ignored : s.step move now = ⟨s, (), []⟩) (silent : sends result move = []) :
    Aloft job token began result (sent ++ sends result move) (published ++ s.ownStep move now)
      (s.step move now).state := by
  simpa only [Service.ownStep, ignored, silent, ite_self, List.append_nil] using aloft

private theorem unfit_aloft (aloft : Aloft job token began result sent published s) {move : Move} {now : Timestamp}
    (unfit : fits s.worker move = false) (silent : sends result move = []) :
    Aloft job token began result (sent ++ sends result move) (published ++ s.ownStep move now)
      (s.step move now).state := by
  obtain ⟨delivered, inbox, reference, worker, split, same, tracks⟩ := aloft
  have busy : phaseOf s.worker ≠ .idle := by simp [worker, phaseOf]
  obtain ⟨aside, quiet⟩ := rest_step s move now busy unfit
  rw [silent, quiet, List.append_nil, List.append_nil]
  exact ⟨delivered, inbox, reference, aside.worker.trans worker, split, same, aside.tracks reference tracks⟩

private theorem report_aloft (aloft : Aloft job token began none sent published s) (update : ProgressUpdate) :
    Aloft job token began none (sent ++ [update]) published (s.report update) := by
  obtain ⟨delivered, inbox, reference, worker, split, same, tracks⟩ := aloft
  refine ⟨delivered, inbox ++ [update], reference, ?_, by simp [← split], same, ?_⟩
  · simp [Service.report, worker]
  · simpa [Service.report, worker] using tracks

theorem Aloft.step (aloft : Aloft job token began result sent published s) (move : Move) (now : Timestamp)
    (stays : leaves result move = false) :
    Aloft job token began result (sent ++ sends result move) (published ++ s.ownStep move now)
      (s.step move now).state := by
  have silent (other : move.reported = []) : sends result move = [] := by simp [sends, other]
  obtain ⟨delivered, inbox, reference, worker, -⟩ := id aloft
  cases move with
  | deliver =>
    rw [silent rfl, List.append_nil]
    exact deliver_aloft aloft now
  | report update =>
    cases result with
    | none =>
      simp only [Service.ownStep, Move.isWorkers, Bool.false_eq_true, ↓reduceIte, List.append_nil]
      exact report_aloft aloft update
    | some result => exact ignored_aloft aloft (by simp [Service.step, Service.report, worker]) rfl
  | conclude ending =>
    cases result with
    | none => cases stays
    | some result => exact ignored_aloft aloft (by simp [Service.step, Service.conclude, worker]) rfl
  | judge canWrite =>
    cases result with
    | none => exact ignored_aloft aloft (by simp [Service.step, Service.judge, Outcome.silent, worker]) rfl
    | some result => cases stays
  | settle canWrite =>
    cases result with
    | none =>
      exact ignored_aloft aloft
        (by simp [Service.step, Service.settle, Service.judge, Service.finish, Outcome.silent, worker]) rfl
    | some result => cases stays
  | accept | cancel | requestCancel | noteCancel | shutDown | closeStreams | closeSubscriptions | startWorker
  | cancelSelf | check | seek | park | begin | finish | release | beat =>
    exact unfit_aloft aloft (by rw [worker]; rfl) (silent rfl)

theorem Aloft.run (aloft : Aloft job token began result sent published s) (moves : List (Move × Timestamp))
    (stays : ∀ made ∈ moves, leaves result made.1 = false) :
    Aloft job token began result (sent ++ moves.flatMap fun made => sends result made.1) (published ++ s.own moves)
      (s.run moves).state := by
  induction moves generalizing s sent published with
  | nil => simpa [Service.run, Service.own] using aloft
  | cons first rest ih =>
    obtain ⟨move, now⟩ := first
    have next := aloft.step move now (stays _ List.mem_cons_self)
    have later := ih next fun made member => stays made (List.mem_cons_of_mem _ member)
    simpa only [Service.run, Service.own, List.flatMap_cons, List.append_assoc] using later

theorem drained (worker : s.worker = .running ⟨job, token, inbox, result⟩) (times : List Timestamp)
    (enough : inbox.length ≤ times.length) :
    (s.run (times.map fun now => (.deliver, now))).state.worker = .running ⟨job, token, [], result⟩ := by
  induction times generalizing s inbox with
  | nil =>
    have empty : inbox = [] := List.eq_nil_of_length_eq_zero (Nat.le_zero.mp enough)
    rw [List.map_nil, Service.run, worker, empty]
  | cons now rest ih =>
    have next : (s.step .deliver now).state.worker = .running ⟨job, token, inbox.tail, result⟩ := by
      cases inbox <;> simp [Service.step, Service.deliver, worker]
    apply ih next
    simp only [List.length_cons] at enough
    simp only [List.length_tail]
    omega

end

end BookExport.Proofs.FlightSteps
