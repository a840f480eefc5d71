import BookExport.Job
import BookExport.Retry

/-! The command line of an exporter: what is to be exported, and how requests are to be retried. -/

namespace BookExport.Exporter

def formatArguments (formats : List Format) : List String := formats.flatMap fun f => ["--format", f.name]

def chapterArguments (selection : Option (List UInt32)) : List String :=
  match selection with
  | some chapters => ["--chapters", String.intercalate "," (chapters.map fun c => Text.decimal c.toNat)]
  | none => []

def retryArguments (policy : Option RetryPolicy) : List String :=
  match policy with
  | some p => ["--retries", Text.decimal p.retries, "--retry-backoff-ms", Text.decimal p.backoff]
  | none => []

def arguments (spec : JobSpec) (policy : Option RetryPolicy) : List String :=
  ["--target", spec.targetId, "--output-dir", spec.outputDirectory] ++ formatArguments spec.formats ++
    chapterArguments spec.chapterSelection ++ (if spec.skipImages then ["--skip-images"] else []) ++
    retryArguments policy

end BookExport.Exporter
