import BookExport.Job
import BookExport.Json.Printer
import BookExport.Snapshot
import BookExport.Timestamp.Text

/-! Traces of failed jobs: one text file for each, whose path becomes part of the error's details. -/

namespace BookExport

structure Trace where
  name : String
  body : String
  deriving DecidableEq, Repr, Inhabited

namespace Trace

def selectionText (selection : Option (List UInt32)) : String :=
  match selection with
  | some chapters =>
    "Some([" ++ String.intercalate ", " (chapters.map fun c => Text.decimal c.toNat) ++ "])"
  | none => "None"

/-- The lines of a trace after the first. -/
def facts (job : Job) (e : ExportError) : List (String × String) :=
  [("job_id", job.id.text), ("target_id", job.spec.targetId),
    ("formats", String.intercalate "," (job.spec.formats.map Format.name)),
    ("chapters", selectionText job.spec.chapterSelection), ("output_dir", job.spec.outputDirectory),
    ("code", e.code), ("error", e.message), ("details", (e.details.map Json.render).getD "")]

def line (fact : String × String) : String := fact.1 ++ ": " ++ fact.2 ++ "\n"

def ofFailure (job : Job) (e : ExportError) (now : Timestamp) : Trace where
  name := "export-error-" ++ job.id.short ++ "-" ++ Text.decimalInt now.millis ++ ".log"
  body := String.join ((("timestamp", now.writeWithOffset) :: facts job e).map line)

/-- The path of a trace in a directory. -/
def path (t : Trace) (dir : String) : String :=
  if dir.isEmpty ∨ dir.toList.getLast? = some '/' then dir ++ t.name else dir ++ "/" ++ t.name

/-- Names the path of a trace in the details of an error. Details that are no object become a member of
one. -/
def nameIn (path : String) (details : Option Json) : Json :=
  match details with
  | some (.obj members) => .obj (Json.setMember "trace_log" (.str path) members)
  | some other => .obj [("detail", other), ("trace_log", .str path)]
  | none => .obj [("trace_log", .str path)]

def attach (path : String) (e : JobError) : JobError := { e with details := some (nameIn path e.details) }

end Trace
end BookExport
