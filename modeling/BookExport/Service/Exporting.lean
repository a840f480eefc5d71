import BookExport.Exporter.Transcript
import BookExport.Service.Move

/-! An exporter at work on the job in flight. What it prints becomes reports, and between two of its lines anybody may
move; it hears of a cancellation by its job's token. -/

namespace BookExport

/-- How an export ends by a result. -/
def ExportResult.ofExcept : Except ExportError JobOutputs → ExportResult
  | .ok outputs => .finished outputs
  | .error error => .failed error

/-- Moves of the running export alone. -/
def Move.isExports : Move → Bool
  | .report _ | .conclude _ => true
  | _ => false

namespace Exporter

/-- The start is a checkpoint as well: for a cancelled job no exporter is started. -/
def Session.start (isCancelled : Bool) : Session :=
  if isCancelled then { isCancelled := true, stopped := some .cancelled } else {}

/-- What happens during an export. -/
inductive Happening where
  /-- Somebody moves who is not the exporter. -/
  | moved (move : Move)
  /-- A line of the exporter is there to be read. -/
  | printed (line : List UInt8)
  deriving Repr

abbrev Happenings := List (Happening × Timestamp)

structure Exporting where
  service : Service
  session : Session

namespace Exporting

def start (s : Service) : Exporting := ⟨s, .start s.isFlightCancelled⟩

/-- The moves in which a happening consists: new updates are reported. -/
def movesOf (x : Exporting) : Happening → List Move
  | .moved move => [move]
  | .printed line =>
    ((x.session.step (.printed line)).updates.drop x.session.updates.length).map .report

def step (x : Exporting) (happening : Happening) (now : Timestamp) : Exporting :=
  let service := (x.service.run ((x.movesOf happening).map (·, now))).state
  match happening with
  | .moved _ => ⟨service, if service.isFlightCancelled then x.session.step .cancelled else x.session⟩
  | .printed line => ⟨service, x.session.step (.printed line)⟩

def run (x : Exporting) : Happenings → Exporting
  | [] => x
  | (happening, now) :: rest => (x.step happening now).run rest

/-- The moves that an export consists of. -/
def moves (x : Exporting) : Happenings → List (Move × Timestamp)
  | [] => []
  | (happening, now) :: rest => (x.movesOf happening).map (·, now) ++ (x.step happening now).moves rest

/-- The lines that are there to be read while the job's token is cancelled, or while it is not. -/
def linesWhile (x : Exporting) (isCancelled : Bool) : Happenings → Transcript
  | [] => []
  | (happening, now) :: rest =>
    let later := (x.step happening now).linesWhile isCancelled rest
    match happening with
    | .printed line => if x.service.isFlightCancelled = isCancelled then line :: later else later
    | .moved _ => later

theorem service_run (x : Exporting) (happenings : Happenings) :
    (x.run happenings).service = (x.service.run (x.moves happenings)).state := by
  induction happenings generalizing x with
  | nil => rfl
  | cons first rest ih =>
    obtain ⟨happening, now⟩ := first
    rw [run, moves, (Service.run_append ..).1, ih]
    cases happening <;> rfl

end Exporting
end Exporter
end BookExport
