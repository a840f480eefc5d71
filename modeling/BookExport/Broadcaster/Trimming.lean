import BookExport.Broadcaster

/-! Trimming of the finished jobs, round by round. A round looks at the job that is next to be forgotten, and the rounds go
on as long as there are too many jobs; nothing else bounds them. -/

namespace BookExport

/-- What a round does to the job that comes first. -/
inductive Round where
  | forgets (id : JobId)
  /-- The headline is about it, so that it moves to the end. -/
  | passes (id : JobId)
  /-- The headline is about it, and there is no other job: the last round. -/
  | stops (id : JobId)
  deriving DecidableEq, Repr

namespace Round

def forgotten : Round → List JobId
  | .forgets id => [id]
  | .passes _ | .stops _ => []

/-- Whether the job of the headline moves. -/
def isPassing : Round → Bool
  | .forgets _ => false
  | .passes _ | .stops _ => true

def forgottenIn (rounds : List Round) : List JobId := rounds.flatMap forgotten

def passedIn (rounds : List Round) : Nat := rounds.countP isPassing

end Round

namespace Broadcaster

def enlist (b : Broadcaster) (id : JobId) : Broadcaster :=
  if id ∈ b.finished then b else { b with finished := b.finished ++ [id] }

/-- A snapshot with which its job finished was noted; what is too many was not trimmed yet. -/
def noteEnd (b : Broadcaster) (s : Snapshot) : Broadcaster :=
  { b with headline := headlineAfter b.headline s, latest := setLatest s.jobId s b.latest }.enlist s.jobId

/-- The next round, if there are too many finished jobs. -/
def round? (b : Broadcaster) : Option (Round × Broadcaster) :=
  if b.finished.length ≤ b.retention then none
  else
    match b.finished with
    | [] => none
    | id :: rest =>
      if b.headline = some id then
        some (if rest.isEmpty then .stops id else .passes id, { b with finished := rest ++ [id] })
      else
        some (.forgets id, { b with finished := rest, latest := b.latest.filter fun (key, _) => key ≠ id })

/-- All rounds from a broadcaster on, and what is left in the end. Without an end there are no such rounds. -/
inductive Trimming : Broadcaster → List Round → Broadcaster → Prop
  | rests {b : Broadcaster} (done : b.round? = none) : Trimming b [] b
  | stops {b last : Broadcaster} {id : JobId} (turn : b.round? = some (.stops id, last)) : Trimming b [.stops id] last
  | goesOn {b next last : Broadcaster} {round : Round} {rounds : List Round} (turn : b.round? = some (round, next))
      (more : ∀ id, round ≠ .stops id) (later : Trimming next rounds last) : Trimming b (round :: rounds) last

end Broadcaster
end BookExport
