import BookExport.Snapshot.Codec

/-! The JSON forms of jobs and their specifications. Absent values are written as null. -/

namespace BookExport
open Json Record

namespace JobSpec

def members (s : JobSpec) : List (String × Json) :=
  [("target_id", .str s.targetId), ("formats", .arr (s.formats.map Format.toJson)),
    ("chapter_selection", orNull (s.chapterSelection.map fun cs => .arr (cs.map fun c => Json.nat c.toNat))),
    ("output_directory", .str s.outputDirectory), ("skip_images", .bool s.skipImages)]

def toJson (s : JobSpec) : Json := .obj s.members

def record : Record JobSpec :=
  JobSpec.mk <$> required "target_id" Doc.text <*>
    required "formats" (Doc.list Format.decode) <*>
    nullable "chapter_selection" (Doc.list Doc.word32) <*>
    required "output_directory" Doc.text <*>
    required "skip_images" Doc.flag

def decode : Decoder JobSpec := record.decode

end JobSpec

namespace Job

def members (j : Job) : List (String × Json) :=
  [("id", j.id.toJson), ("spec", j.spec.toJson), ("created_at", j.createdAt.toJson), ("status", j.status.toJson),
    ("queue_position", Json.nat j.queuePosition), ("cancel_requested", .bool j.cancelRequested),
    ("started_at", orNull (j.startedAt.map Timestamp.toJson)),
    ("finished_at", orNull (j.finishedAt.map Timestamp.toJson))]

def toJson (j : Job) : Json := .obj j.members

def record : Record Job :=
  Job.mk <$> required "id" JobId.decode <*>
    required "spec" JobSpec.decode <*>
    required "created_at" Timestamp.decode <*>
    required "status" Status.decode <*>
    required "queue_position" Doc.position <*>
    required "cancel_requested" Doc.flag <*>
    nullable "started_at" Timestamp.decode <*>
    nullable "finished_at" Timestamp.decode

def decode : Decoder Job := record.decode

end Job
end BookExport
