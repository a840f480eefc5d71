import BookExport.Service.Move

/-! Requests to cancel the active job: which moves are such requests, and what becomes of a request when others move
between its two halves. -/

namespace BookExport.Service

/-- The active job, if a move asks it to stop. -/
def asked? (s : Service) : Move → Option JobId
  | .cancel target | .requestCancel target =>
    s.queue.activeId?.filter fun id => target = none ∨ target = some id
  | _ => none

/-- The jobs that were asked to stop while they were active, once for each request. -/
def asked (s : Service) : List (Move × Timestamp) → List JobId
  | [] => []
  | (move, now) :: rest => (s.asked? move).toList ++ (s.step move now).state.asked rest

/-- Cancels a job, or the active one, while others move between the two halves. Published is what belongs to the
request itself. -/
def cancelAmid (s : Service) (target : Option JobId) (now : Timestamp) (between : List (Move × Timestamp))
    (later : Timestamp) : Outcome Service (Except CancelFault CancelAck) :=
  let requested := s.requestCancel target now
  let meanwhile := requested.state.run between
  match requested.answer with
  | .error fault => ⟨meanwhile.state, .error fault, requested.published⟩
  | .ok done =>
    match done with
    | .requested id false =>
      let noted := meanwhile.state.noteCancel id later
      ⟨noted.state, .ok (acknowledgement done), requested.published ++ noted.published⟩
    | _ => ⟨meanwhile.state, .ok (acknowledgement done), requested.published⟩

/-- When nobody moves in between, it is the whole request. -/
theorem cancelAmid_nil (s : Service) (target : Option JobId) (now : Timestamp) :
    s.cancelAmid target now [] now = s.cancel target now := rfl

end BookExport.Service
