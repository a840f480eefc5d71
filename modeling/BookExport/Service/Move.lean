import BookExport.Service

/-! Everything that changes a service, as data. Clients, the worker and the running export move in any
order; a move that is not possible leaves the service as it is. -/

namespace BookExport

inductive Move where
  | accept (id : JobId) (spec : JobSpec)
  | cancel (id : Option JobId)
  /-- The first half of a cancel request. Others may move before the second. -/
  | requestCancel (id : Option JobId)
  /-- The second half. -/
  | noteCancel (id : JobId)
  | shutDown
  | closeStreams
  | closeSubscriptions
  | startWorker
  /-- The worker asks whether there was a shutdown. -/
  | check
  /-- The worker looks for a job. -/
  | seek
  /-- The worker waits until it is woken. -/
  | park
  /-- The worker starts the export of the job it claimed. -/
  | begin
  /-- The worker takes a report out of the inbox. -/
  | deliver
  /-- The worker judges an export that has ended; a trace of a failure may not be writable. -/
  | judge (canWrite : Bool)
  /-- The worker publishes the end of the judged job. -/
  | finish
  /-- Both at once. -/
  | settle (canWrite : Bool)
  /-- The worker frees the place of the job that ended. -/
  | release
  /-- The worker tells how many wait. -/
  | beat
  /-- The running export reports. -/
  | report (update : ProgressUpdate)
  /-- The running export ends. -/
  | conclude (result : ExportResult)
  /-- The running export cancels itself. -/
  | cancelSelf
  deriving Repr, Inhabited

/-- The id under which a move has a job accepted. -/
def Move.accepted : Move → List JobId
  | .accept id _ => [id]
  | _ => []

/-- The report that a move sends. -/
def Move.reported : Move → List ProgressUpdate
  | .report update => [update]
  | _ => []

def Move.isWorkers : Move → Bool
  | .check | .seek | .park | .begin | .deliver | .judge _ | .finish | .settle _ | .release | .beat => true
  | _ => false

namespace Service

/-- Nothing has happened yet. Whoever subscribes before that is there already. -/
structure Empty (s : Service) : Prop where
  queue : s.queue = {}
  tracker : s.tracker = {}
  worker : s.worker = .absent
  latest : s.broadcaster.latest = []
  headline : s.broadcaster.headline = none
  finished : s.broadcaster.finished = []

def step (s : Service) (move : Move) (now : Timestamp) : Outcome Service Unit :=
  match move with
  | .accept id spec => (s.accept id spec now).silent
  | .cancel id => (s.cancel id now).silent
  | .requestCancel id => (s.requestCancel id now).silent
  | .noteCancel id => (s.noteCancel id now).silent
  | .shutDown => ⟨s.shutDown, (), []⟩
  | .closeStreams => ⟨s.closeStreams, (), []⟩
  | .closeSubscriptions => ⟨s.closeSubscriptions, (), []⟩
  | .startWorker => ⟨s.startWorker, (), []⟩
  | .check => ⟨s.check, (), []⟩
  | .seek => s.seek now
  | .park => ⟨s.park, (), []⟩
  | .begin => s.begin now
  | .deliver => s.deliver now
  | .judge canWrite => (s.judge canWrite now).silent
  | .finish => s.finish now
  | .settle canWrite => (s.settle canWrite now).silent
  | .release => (s.release now).silent
  | .beat => ⟨s.beat, (), []⟩
  | .report update => ⟨s.report update, (), []⟩
  | .conclude result => ⟨s.conclude result, (), []⟩
  | .cancelSelf => ⟨s.cancelSelf, (), []⟩

/-- Makes moves one after the other, each at its time. -/
def run (s : Service) : List (Move × Timestamp) → Outcome Service Unit
  | [] => ⟨s, (), []⟩
  | (move, now) :: rest =>
    let first := s.step move now
    let later := first.state.run rest
    { later with published := first.published ++ later.published }

/-- What the worker itself publishes when a move is made. -/
def ownStep (s : Service) (move : Move) (now : Timestamp) : List Snapshot :=
  if move.isWorkers then (s.step move now).published else []

/-- What the worker itself publishes while moves are made. -/
def own (s : Service) : List (Move × Timestamp) → List Snapshot
  | [] => []
  | (move, now) :: rest => s.ownStep move now ++ (s.step move now).state.own rest

theorem own_append (s : Service) (first rest : List (Move × Timestamp)) :
    s.own (first ++ rest) = s.own first ++ (s.run first).state.own rest := by
  induction first generalizing s with
  | nil => rfl
  | cons move moves ih => simp only [List.cons_append, own, run, ih, List.append_assoc]

theorem own_subset (s : Service) (moves : List (Move × Timestamp)) : s.own moves ⊆ (s.run moves).published := by
  induction moves generalizing s with
  | nil => exact List.nil_subset _
  | cons made rest ih =>
    intro shown member
    rcases List.mem_append.mp member with first | later
    · refine List.mem_append_left _ ?_
      unfold ownStep at first
      split at first
      · exact first
      · cases first
    · exact List.mem_append_right _ (ih _ later)

theorem run_append (s : Service) (first rest : List (Move × Timestamp)) :
    (s.run (first ++ rest)).state = ((s.run first).state.run rest).state ∧
      (s.run (first ++ rest)).published = (s.run first).published ++ ((s.run first).state.run rest).published := by
  induction first generalizing s with
  | nil => exact ⟨rfl, rfl⟩
  | cons move moves ih =>
    obtain ⟨sameState, samePublished⟩ := ih (s.step move.1 move.2).state
    refine ⟨sameState, ?_⟩
    simp only [List.cons_append, run, samePublished, List.append_assoc]

end Service
end BookExport
